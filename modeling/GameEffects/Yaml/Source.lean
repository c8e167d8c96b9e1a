import GameEffects.Text.File
import GameEffects.Yaml.Fault

/-!
# Sources

The characters of a document, which are read and checked page by page. A page with a fault ends the
characters; the fault shows when the first character of that page is looked at.
-/

namespace GameEffects.Yaml

/-- Whether a document may hold a character: tabs, line ends and everything that is no control
character, surrogate or non-character. -/
def isAllowed (c : Char) : Bool :=
  let n := c.toNat
  c == '\t' || c == '\n' || c == '\r' || c == '\u0085' || (0x20 ≤ n && n ≤ 0x7E) ||
    (0xA0 ≤ n && n ≤ 0xD7FF) || (0xE000 ≤ n && n ≤ 0xFFFD) || 0x10000 ≤ n

/-- The characters of a document. -/
structure Source where
  /-- The characters before the first page with a fault. -/
  text : Text
  /-- The fault of that page, if there is one. -/
  fault : Option TextFault := none

namespace Source

/-- The characters of one page and what follows it. -/
def ofPage (page : Text) (following : Source) : Source :=
  match page.find? fun c => !isAllowed c with
  | some c => ⟨[], some (.malformed (.character c))⟩
  | none => ⟨page ++ following.text, following.fault⟩

/-- The number of characters of a page. -/
def pageSize : Nat := 4096

/-- The next `count` pages of a file. -/
def pages (count : Nat) (file : Text.File) : Source :=
  match count with
  | 0 => ⟨[], none⟩
  | count + 1 =>
    match file.take pageSize with
    | .error fault => ⟨[], some (.bytes fault)⟩
    | .ok ([], _) => ⟨[], none⟩
    | .ok (page, file) => ofPage page (pages count file)

/-- The characters in the bytes of a file. The first page is twice as long as the others. -/
def ofBytes (bytes : List UInt8) : Source :=
  let first : Except Text.Utf8Fault (Text × Text.File) := do
    let (start, file) ← (⟨bytes, [], false, [], 0, 0⟩ : Text.File).take pageSize
    let (more, file) ← file.take pageSize
    return (start ++ more, file)
  match first with
  | .error fault => ⟨[], some (.bytes fault)⟩
  | .ok (page, file) => ofPage page (pages bytes.length file)

end Source

end GameEffects.Yaml
