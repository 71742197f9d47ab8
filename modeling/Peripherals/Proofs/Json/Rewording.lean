import Mathlib.Logic.Relation
import Peripherals.Proofs.Json.Shapes
/-!
Documents that say the same. Main statement: what is written for a record is read as the record, and so
is every document that says the same in other words: with its keys in another order, with keys that no
field has, without fields that have their defaults, with nulls for what is absent, or as a list; but
nothing that is required can be missing, and no number can be too large.
-/

set_option autoImplicit false

namespace Peripherals

open Document

/-! ### Fields -/

namespace Field

variable {sh : Shape} {α β : Type}

def isOptional : Field sh α → Bool
  | .leaf .model | .leaf .analogBacking | .leaf .digitalBacking | .leaf .pulseBacking => true
  | _ => false

def bits? : Field sh α → Option Nat
  | .inputPin | .lineId | .outputPin | .period | .duty | .leaf .device | .leaf .chip => some 32
  | .leaf .triggerRequest => some 64
  | _ => none

private theorem read_null {p : Field sh α} (optional : p.isOptional = true) {a : α}
    (default : p.default? = some a) :
    p.read Json.format .null = .ok a := by
  cases p with
  | leaf ℓ =>
    cases ℓ with
    | model | analogBacking | digitalBacking | pulseBacking =>
      obtain rfl := Option.some.inj default
      rfl
    | _ => cases optional
  | _ => cases optional

private theorem read_number {p : Field sh α} {bits : Nat} (number : p.bits? = some bits) {v : Json}
    {a : α}
    (read : p.read Json.format v = .ok a) : ∃ n : Nat, v = .int n ∧ n < Nat.pow 2 bits := by
  cases p with
  | inputPin | lineId | outputPin | period | duty =>
    obtain rfl := Option.some.inj number
    exact ⟨_, Json.word32_ok_iff.mp read, UInt32.toNat_lt a⟩
  | leaf ℓ =>
    cases ℓ with
    | device | chip =>
      obtain rfl := Option.some.inj number
      exact ⟨_, Json.word32_ok_iff.mp read, UInt32.toNat_lt a⟩
    | triggerRequest =>
      obtain rfl := Option.some.inj number
      exact ⟨_, Json.word64_ok_iff.mp read, UInt64.toNat_lt a⟩
    | _ => cases number
  | _ => cases number

end Field

/-! ### Rewording -/

namespace Json

variable {sh : Shape} {α : Type}

/-- A value that may as well be left out. -/
def IsDefault (p : Field sh α) (v : Json) : Prop :=
  ∃ a, p.default? = some a ∧ p.read format v = .ok a

/-- What an object and a list say of a field: the same; or one of them says nothing and the other gives
the default. -/
def SameItem (p : Field sh α) : Option Json → Option Json → Prop
  | some v, some w => w = v
  | some v, none => IsDefault p v
  | none, some w => IsDefault p w
  | none, none => True

/-- One change of a document that does not change what it says. -/
inductive Reworded : Shape → Json → Json → Prop
  /-- The keys of an object stand in another order. -/
  | reordered {sh : Shape} {fields fields' : List (String × Json)} (perm : fields.Perm fields')
    (distinct : (fields.map Prod.fst).Nodup) : Reworded sh (.object fields) (.object fields')
  /-- A key is added that no field has. -/
  | extended {sh : Shape} (before after : List (String × Json)) {key : String} (v : Json)
    (unknown : key ∉ sh.keys) :
    Reworded sh (.object (before ++ after)) (.object (before ++ (key, v) :: after))
  /-- A field is left out that has its default. -/
  | shortened {sh : Shape} {α : Type} (p : Field sh α) {fields : List (String × Json)} {v : Json}
    (value : under fields p.key = some v) (default : IsDefault p v) :
    Reworded sh (.object fields) (.object (fields.filter (·.1 != p.key)))
  /-- Null is given for an optional field that is absent. -/
  | nulled {sh : Shape} {α : Type} (p : Field sh α) (optional : p.isOptional = true)
    (before after : List (String × Json)) (absent : under (before ++ after) p.key = none) :
    Reworded sh (.object (before ++ after)) (.object (before ++ (p.key, .null) :: after))
  /-- The fields are given as a list in order of declaration, perhaps without the last ones. -/
  | listed {sh : Shape} {fields : List (String × Json)} {items : List Json}
    (fits : items.length ≤ sh.keys.length) (each : ∀ {α} (p : Field sh α),
      SameItem p (under fields p.key) items[sh.keys.idxOf p.key]?) :
    Reworded sh (.object fields) (.array items)
  | within (sec : Configuration.Section) (before after : List (String × Json)) {v v' : Json}
    (part : Reworded (.part sec) v v') :
    Reworded .configuration (.object (before ++ (sec.name, v) :: after))
      (.object (before ++ (sec.name, v') :: after))
  | withinList (sec : Configuration.Section) {items : List Json} {v v' : Json}
    (item : items[Shape.configuration.keys.idxOf sec.name]? = some v) (part : Reworded (.part sec) v v') :
    Reworded .configuration (.array items) (.array (items.set (Shape.configuration.keys.idxOf sec.name) v'))

/-- Two documents say the same of a record. -/
structure Agrees (sh : Shape) (d d' : Json) : Prop where
  record : d'.isRecord sh.keys.length = true
  each : ∀ {α} (p : Field sh α) {a : α}, p.Takes format (d.given sh.keys p.key) a →
    p.Takes format (d'.given sh.keys p.key) a

private theorem Agrees.read {d d' : Json} (agrees : Agrees sh d d') {x : sh.Value}
    (read : sh.read format d = .ok x) : sh.read format d' = .ok x :=
  sh.readJson_iff.mpr ⟨agrees.record, fun p => agrees.each p ((sh.readJson_iff.mp read).2 p)⟩

private theorem agrees_objects {fields fields' : List (String × Json)}
    (each : ∀ {α} (p : Field sh α) {a : α}, p.Takes format (under fields p.key) a →
      p.Takes format (under fields' p.key) a) : Agrees sh (.object fields) (.object fields') :=
  ⟨rfl, each⟩

private theorem IsDefault.default {p : Field sh α} {v : Json} (default : IsDefault p v) {a : α}
    (read : p.read format v = .ok a) : p.default? = some a := by
  obtain ⟨b, known, read'⟩ := default
  rw [known, Except.ok.inj (read'.symm.trans read)]

private theorem SameItem.takes {p : Field sh α} {value item : Option Json}
    (same : SameItem p value item) {a : α}
    (takes : p.Takes format value a) : p.Takes format item a := by
  cases value with
  | some v =>
    cases item with
    | some w => exact (same : w = v) ▸ takes
    | none => exact IsDefault.default same takes
  | none =>
    cases item with
    | some w =>
      obtain ⟨b, known, read⟩ := (same : IsDefault p w)
      obtain rfl := Option.some.inj (known.symm.trans takes)
      exact read
    | none => exact takes

/-- A reworded document is read as the same record. -/
private theorem Reworded.reads {d d' : Json} (reworded : Reworded sh d d') {x : sh.Value}
    (read : sh.read format d = .ok x) : sh.read format d' = .ok x := by
  induction reworded with
  | reordered perm distinct =>
    refine (agrees_objects fun p a takes => ?_).read read
    rwa [← under_perm perm distinct]
  | extended before after v unknown =>
    refine (agrees_objects fun p a takes => ?_).read read
    have other : _ ≠ p.key := ne_of_mem_of_not_mem p.key_mem unknown |>.symm
    rwa [under_insert_of_ne before after other]
  | shortened q value default =>
    refine (agrees_objects fun p a takes => ?_).read read
    by_cases same : p.key = q.key
    · cases Field.eq_of_key same
      rw [value] at takes
      rw [under_filter_self]
      exact default.default takes
    · rwa [under_filter_of_ne same]
  | nulled q optional before after absent =>
    refine (agrees_objects fun p a takes => ?_).read read
    by_cases same : q.key = p.key
    · cases Field.eq_of_key same
      rw [absent] at takes
      rw [under_append, Option.or_eq_none_iff] at absent
      rw [under_insert_self, absent.1]
      exact Field.read_null optional takes
    · rwa [under_insert_of_ne before after same]
  | @listed sh fields items fits each =>
    have agrees : Agrees sh (.object fields) (.array items) :=
      ⟨decide_eq_true fits, fun p _ takes => (each p).takes takes⟩
    exact agrees.read read
  | within sec before after part ih =>
    refine (agrees_objects fun p a takes => ?_).read read
    by_cases same : sec.name = p.key
    · cases Field.eq_of_key (p := .part sec) same
      rw [← same, under_insert_self] at takes ⊢
      cases later : under after sec.name with
      | some w => rwa [later] at takes
      | none =>
        rw [later] at takes
        exact ih takes
    · rw [under_insert_of_ne before after same] at takes ⊢
      exact takes
  | @withinList sec items v v' item part ih =>
    refine Agrees.read ⟨?_, fun p a takes => ?_⟩ read
    · have fits := (Shape.configuration.readJson_iff.mp read).1
      simpa [isRecord] using fits
    · change p.Takes format items[_]? a at takes
      change p.Takes format (items.set _ v')[_]? a
      by_cases same : sec.name = p.key
      · cases Field.eq_of_key (p := .part sec) same
        rw [← same, item] at takes
        rw [← same, List.getElem?_set_self (List.getElem?_eq_some_iff.mp item).1]
        exact ih takes
      · have apart : Shape.configuration.keys.idxOf sec.name ≠ Shape.configuration.keys.idxOf p.key :=
          fun eq => same ((List.idxOf_inj (Field.part sec).key_mem).mp eq)
        rwa [List.getElem?_set_ne apart]

/-! ### Documents that are refused -/

/-- A field is missing that cannot be left out. -/
def Lacks (sh : Shape) (d : Json) : Prop :=
  ∃ (α : Type) (p : Field sh α), p.default? = none ∧ d.given sh.keys p.key = none

/-- A number that is no natural number of so many bits. -/
def isOutside (bits : Nat) : Json → Prop
  | .int n => n < 0 ∨ (Nat.pow 2 bits : Nat) ≤ n
  | .float _ => True
  | _ => False

/-- A field is given a number that is outside its range, in the record or in one of its sections. -/
inductive Oversteps : Shape → Json → Prop
  | number {sh : Shape} {α : Type} (p : Field sh α) {bits : Nat} (number : p.bits? = some bits)
    {d v : Json} (value : d.given sh.keys p.key = some v) (outside : isOutside bits v) : Oversteps sh d
  | within (sec : Configuration.Section) {d v : Json}
    (value : d.given Shape.configuration.keys sec.name = some v) (part : Oversteps (.part sec) v) :
    Oversteps .configuration d

private theorem Lacks.refused {d : Json} (lacks : Lacks sh d)
    (x : sh.Value) : sh.read format d ≠ .ok x := by
  intro read
  obtain ⟨α, p, needed, missing⟩ := lacks
  have takes := (sh.readJson_iff.mp read).2 p
  rw [missing, Field.Takes, Form.Supplies, needed] at takes
  cases takes

private theorem not_isOutside {bits n : Nat} (fits : n < Nat.pow 2 bits) : ¬ isOutside bits
    (.int n) := by
  simp only [isOutside]
  generalize Nat.pow 2 bits = bound at fits ⊢
  omega

private theorem Oversteps.refused {d : Json} (oversteps : Oversteps sh d) (x : sh.Value) :
    sh.read format d ≠ .ok x := by
  induction oversteps with
  | @number sh α p bits number d v value outside =>
    intro read
    have takes := (sh.readJson_iff.mp read).2 p
    rw [value] at takes
    obtain ⟨n, rfl, fits⟩ := Field.read_number number takes
    exact not_isOutside fits outside
  | @within sec d v value part ih =>
    intro read
    have takes := (Shape.configuration.readJson_iff.mp read).2 (.part sec)
    rw [show (Field.part sec).key = sec.name from rfl, value] at takes
    exact ih _ takes

end Json

/-- **A record is read from every document that says it**: from the one that is written for it, as a
value or as a text, and from all that can be made of it without changing what it says. A document in
which something required is missing, or a number is too large, is not read at all. -/
theorem read_in_every_form (sh : Shape) :
    (∀ x : sh.Value, sh.read Json.format (sh.toJson x) = .ok x ∧
      ∃ d, Json.ofText? (sh.toJson x).toText = some d ∧ sh.read Json.format d = .ok x) ∧
    (∀ {d d' : Json} {x : sh.Value}, sh.read Json.format d = .ok x →
      Relation.ReflTransGen (Json.Reworded sh) d d' → sh.read Json.format d' = .ok x) ∧
    ∀ d : Json, Json.Lacks sh d ∨ Json.Oversteps sh d → ∃ m, sh.read Json.format d = .error m := by
  refine ⟨fun x => ⟨sh.readJson_toJson x, sh.ofText?_toJson x⟩, fun read reworded => ?_, fun d wrong => ?_⟩
  · induction reworded with
    | refl => exact read
    | tail _ once ih => exact once.reads ih
  · have refused (x : sh.Value) : sh.read Json.format d ≠ .ok x :=
      wrong.elim (·.refused x) (·.refused x)
    cases answer : sh.read Json.format d with
    | error m => exact ⟨m, rfl⟩
    | ok x => exact absurd answer (refused x)

/-- Two sections become lists, one without its last item and one with a null in place of its first; the
whole becomes a list with objects in place of the sections that were left out. A pulse without a length
and a device behind the last number are refused. -/
theorem sections_as_lists :
    let adc : List (String × Json) := [("trigger_request", .int 0), ("device", .int 7)]
    let pwm : List (String × Json) := [("backend", .text "mock"), ("chip", .int 0)]
    let adcList : Json := .array [.null, .int 7, .int 0]
    let pwmList : Json := .array [.text "mock"]
    let c : Configuration :=
      { adc := { device := 7, triggerRequest := 0 }, pwm := { backing := some .mock } }
    (Configuration.read Json.format (.object [("pwm", .object pwm), ("adc", .object adc)]) = .ok c ∧
      Configuration.read Json.format (.array [.object [], .object [], adcList, .object [], pwmList]) = .ok c) ∧
      (∃ m, Pwm.Config.read Json.format (.object [("pin_num", .int 1), ("period", .int 5)]) = .error m) ∧
      ∃ m, Configuration.read Json.format
        (.array [.object [], .object [], .array [.null, .int 4294967296]]) = .error m := by
  intro adc pwm adcList pwmList c
  have adcListed : Json.Reworded (.part .adc) (.object adc) adcList := by
    refine .listed (by decide) fun p => ?_
    cases p with
    | leaf ℓ =>
      cases ℓ with
      | analogBacking => exact ⟨none, rfl, rfl⟩
      | device | triggerRequest => rfl
  have pwmListed : Json.Reworded (.part .pwm) (.object pwm) pwmList := by
    refine .listed (by decide) fun p => ?_
    cases p with
    | leaf ℓ =>
      cases ℓ with
      | pulseBacking => rfl
      | chip => exact ⟨0, rfl, rfl⟩
  have listed : Json.Reworded .configuration (.object [("pwm", pwmList), ("adc", adcList)])
      (.array [.object [], .object [], adcList, .object [], pwmList]) := by
    refine .listed (by decide) fun p => ?_
    cases p with
    | part sec =>
      cases sec with
      | adc | pwm => rfl
      | application | platform | gpio => exact ⟨_, rfl, rfl⟩
  have reworded : Relation.ReflTransGen (Json.Reworded .configuration)
      (.object [("pwm", .object pwm), ("adc", .object adc)])
      (.array [.object [], .object [], adcList, .object [], pwmList]) :=
    .tail (.tail (.single (.within .pwm [] [("adc", .object adc)] pwmListed))
      (.within .adc [("pwm", pwmList)] [] adcListed)) listed
  obtain ⟨-, reworded_read, wrong_refused⟩ := read_in_every_form .configuration
  have read : Configuration.read Json.format (.object [("pwm", .object pwm), ("adc", .object adc)]) = .ok c :=
    rfl
  refine ⟨⟨read, reworded_read read reworded⟩, ?_, wrong_refused _ (.inr ?_)⟩
  · exact (read_in_every_form .output).2.2 _ (.inl ⟨_, .duty, rfl, rfl⟩)
  · exact .within .adc rfl (.number (.leaf .device) rfl rfl (Or.inr (by decide)))

end Peripherals
