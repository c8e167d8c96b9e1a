import GameEffects.Proofs.Derivation
import GameEffects.Proofs.RoundTrip
import GameEffects.Proofs.UpperCase

/-!
# Names of effects and sounds

A name is put into upper case before it is looked up, but one that a specification gives has been put
into lower case before. Where all names that can be found are ASCII texts, both ways find the same,
with two exceptions: a name with a Kelvin sign or a capital sharp s may only be found if a specification
gives it.
-/

namespace GameEffects

/-! ## Specifications that give a name -/

namespace Spec

/-- The specification of an effect that gives a name and nothing else. -/
def nameSpec (kind : Kind) (name : Text) : Text :=
  kind.word ++ ",name=".toList ++ name

end Spec

namespace Parameters

variable {kind : Kind} (hparam : .name ∈ kind.params) (name : Text)

/-- The parameters of an effect that has a name and nothing else. -/
def ofName : Parameters :=
  (none kind).put .name hparam name

theorem items_ofName : (ofName hparam name).items = [(Param.name.word, Text.lower name)] :=
  items_put (none kind) hparam name

theorem get?_ofName (param : Param) :
    (ofName hparam name).get? param = if param = .name then some (Text.lower name) else Option.none := by
  rw [get?_eq_find?_items, items_ofName]
  cases param <;> rfl

theorem integerD_ofName {ε : Type} {param : Param} (h : param ≠ .name) (default : Int) :
    ((ofName hparam name).integerD param default : Run ε Int) = pure default := by
  rw [integerD, readInteger, get?_ofName, if_neg h]
  rfl

theorem realD_ofName {ε : Type} {param : Param} (h : param ≠ .name) (default : Binary64) :
    ((ofName hparam name).realD param default : Run ε Binary64) = pure default := by
  rw [realD, readReal, get?_ofName, if_neg h]
  rfl

end Parameters

namespace Spec

variable {kind : Kind} (hparam : .name ∈ kind.params) {name : Text}

theorem lower_nameSpec (name : Text) :
    Text.lower (nameSpec kind name) = encode (Parameters.ofName hparam name) := by
  have hkey : ",name=".toList = ',' :: (Param.name.word ++ ['=']) := by decide
  have hspec : nameSpec kind name = kind.word ++ ',' :: (Param.name.word ++ '=' :: name) := by
    simp only [nameSpec, hkey, List.append_assoc, List.cons_append, List.nil_append]
  have hkindOf : (Parameters.ofName hparam name).kind = kind := rfl
  have hkind : Text.lowerFrom false kind.word = kind.word := Text.lower_eq_self kind.isLower_word
  have hname : Text.lowerFrom false Param.name.word = Param.name.word :=
    Text.lower_eq_self Param.name.isLower_word
  -- The comma and the equals sign end words, so the name is lowered by itself.
  rw [hspec, Text.lower, Text.lowerFrom_append_cons Text.endsWord_comma, hkind, Text.lower,
    Text.lowerFrom_append_cons Text.endsWord_equals, hname, encode, Parameters.items_ofName,
    List.flatMap_singleton, itemField, hkindOf]

/-- The specification gives the name in lower case, and nothing is reported. -/
theorem parse_nameSpec (hcomma : ',' ∉ name) (m : Binary64) :
    parse (some (nameSpec kind name)) m = pure ⟨Parameters.ofName hparam name, m⟩ := by
  rw [← parse_lower, lower_nameSpec hparam]
  refine parse_encode m fun item hitem => ?_
  rw [Parameters.items_ofName, List.mem_singleton] at hitem
  subst hitem
  exact Text.comma_not_mem_lowerFrom hcomma false

end Spec

namespace Descriptor

variable {name : Text} (hne : name ≠ []) (v : Vocabulary) (m : Binary64)
include hne

theorem action_effectOfName (hparam : .name ∈ Kind.effect.params) :
    action v ⟨.ofName hparam name, m⟩ = Run.ofExcept
      ((v.resolveEffect (Text.lower name)).map fun id => some (.playEffect id 0 64)) := by
  have hnames : Texts.Names (Parameters.ofName hparam name).get? (Text.lower name) :=
    ⟨Parameters.get?_ofName hparam name .name, Text.lower_ne_nil hne⟩
  change worldEffectAction v _ = _
  rw [worldEffectAction_of_names hnames]
  cases v.resolveEffect (Text.lower name) with
  | error fault => rfl
  | ok id =>
    rw [Run.ofExcept_ok_bind, Parameters.integerD_ofName hparam name (by decide),
      Parameters.integerD_ofName hparam name (by decide)]
    rfl

theorem action_soundOfName (hparam : .name ∈ Kind.sound.params) :
    action v ⟨.ofName hparam name, m⟩ = Run.ofExcept
      ((v.resolveSound (Text.lower name)).map fun id =>
        some (.playSound id (Binary64.one.mul m) .one)) := by
  have hnames : Texts.Names (Parameters.ofName hparam name).get? (Text.lower name) :=
    ⟨Parameters.get?_ofName hparam name .name, Text.lower_ne_nil hne⟩
  change soundAction v _ = _
  rw [soundAction_of_names hnames]
  cases v.resolveSound (Text.lower name) with
  | error fault => rfl
  | ok id =>
    rw [Run.ofExcept_ok_bind, Parameters.realD_ofName hparam name (by decide),
      Parameters.realD_ofName hparam name (by decide)]
    rfl

end Descriptor

/-! ## Looking names up -/

namespace Vocabulary

variable {names : List Text} {list : NameList} {name id : Text}

/-- Where all names are ASCII texts, a name is found exactly if it is found in lower case and no latin
capital is in it. -/
theorem resolve_eq_ok_iff_lower (hnames : ∀ id ∈ names, Text.IsAscii id) :
    resolve names list name = .ok id ↔
      resolve names list (Text.lower name) = .ok id ∧ ∀ c ∈ name, c ∉ Text.latinCapitals := by
  rw [resolve_eq_ok_iff, resolve_eq_ok_iff]
  constructor
  · rintro ⟨hmem, rfl⟩
    have hascii := hnames _ hmem
    exact ⟨⟨hmem, Text.upper_lower hascii⟩, (Text.isAscii_upper_iff.mp hascii).2⟩
  · rintro ⟨⟨hmem, rfl⟩, hcapitals⟩
    have hascii : Text.IsAscii (Text.upper name) :=
      Text.isAscii_upper_iff.mpr ⟨hnames _ hmem, hcapitals⟩
    exact ⟨hmem, (Text.upper_lower hascii).symm⟩

set_option maxRecDepth 8000 in
theorem isAscii_commonEffects : ∀ id ∈ commonEffects, Text.IsAscii id := by decide

set_option maxRecDepth 8000 in
theorem isAscii_commonSounds : ∀ id ∈ commonSounds, Text.IsAscii id := by decide

/-- A name is found in the common vocabulary exactly if its lower case is found there and it has no
Kelvin sign and no capital sharp s; what is found is the same. What a specification gives as a name is
found if its lower case is, with or without these two. -/
theorem resolve_common_iff (name : Text) :
    (∀ id, common.resolveEffect name = .ok id ↔
      common.resolveEffect (Text.lower name) = .ok id ∧ ∀ c ∈ name, c ∉ Text.latinCapitals) ∧
    (∀ id, common.resolveSound name = .ok id ↔
      common.resolveSound (Text.lower name) = .ok id ∧ ∀ c ∈ name, c ∉ Text.latinCapitals) ∧
    (name ≠ [] → ',' ∉ name → ∀ m,
      (∃ d, Spec.parse (some (Spec.nameSpec .effect name)) m = pure d ∧
        d.action common = Run.ofExcept
          ((common.resolveEffect (Text.lower name)).map fun id => some (.playEffect id 0 64))) ∧
      ∃ d, Spec.parse (some (Spec.nameSpec .sound name)) m = pure d ∧
        d.action common = Run.ofExcept
          ((common.resolveSound (Text.lower name)).map fun id =>
            some (.playSound id (Binary64.one.mul m) .one))) := by
  refine ⟨fun id => resolve_eq_ok_iff_lower isAscii_commonEffects,
    fun id => resolve_eq_ok_iff_lower isAscii_commonSounds, fun hne hcomma m => ⟨?_, ?_⟩⟩
  · have hparam : .name ∈ Kind.effect.params := by decide
    exact ⟨_, Spec.parse_nameSpec hparam hcomma m, Descriptor.action_effectOfName hne common m hparam⟩
  · have hparam : .name ∈ Kind.sound.params := by decide
    exact ⟨_, Spec.parse_nameSpec hparam hcomma m, Descriptor.action_soundOfName hne common m hparam⟩

/-- With a Kelvin sign in its name the first click is not found, but a specification may give this
name. -/
theorem resolve_common_kelvin :
    common.resolveEffect "CLIC\u212A1".toList = .error (.unknownName .effects "CLIC\u212A1".toList) ∧
    common.resolveEffect (Text.lower "CLIC\u212A1".toList) = .ok "CLICK1".toList ∧
    ∃ d, Spec.parse (some "effect,name=CLIC\u212A1".toList) .one = pure d ∧
      d.action common = pure (some (.playEffect "CLICK1".toList 0 64)) := by
  obtain ⟨-, -, hspec⟩ := resolve_common_iff "CLIC\u212A1".toList
  obtain ⟨⟨d, hparse, haction⟩, -⟩ := hspec (by decide) (by decide) .one
  have hlower : common.resolveEffect (Text.lower "CLIC\u212A1".toList) = .ok "CLICK1".toList := by
    decide
  rw [hlower] at haction
  exact ⟨by decide, hlower, d, hparse, haction⟩

end Vocabulary

end GameEffects
