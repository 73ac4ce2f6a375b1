import CellFormat.Json.Basic
import Mathlib.Data.List.Nodup

/-!
When JSON reads alike. A field that is left out reads as if its base were given, so a value can be filled up from a
base, and neither the order of its members nor members that are no fields matter.
-/

namespace CellFormat

namespace Json

/-- Two ways to give what a base holds: the same value, or objects that agree in each field, where a field left out
is given as in the base. Neither the order of the members nor members that are no fields matter, but if one object
gives a field twice, so does the other. -/
inductive Agree : Json → Json → Json → Prop
  | same {base given} : Agree base given given
  | members {fields given other} :
      (GivesOnce (fields.map Prod.fst) given ↔ GivesOnce (fields.map Prod.fst) other) →
      (∀ field ∈ fields,
        Agree field.2 ((given.lookup field.1).getD field.2) ((other.lookup field.1).getD field.2)) →
      Agree (object fields) (object given) (object other)

section Leaves

variable {given other : Json}

/-- What is no object can only be given as it is. -/
theorem agree_iff_of_leaf {base : Json} (leaf : ∀ fields, base ≠ object fields) :
    Agree base given other ↔ given = other := by
  constructor
  · intro agree
    cases agree with
    | same => rfl
    | members => exact absurd rfl (leaf _)
  · rintro rfl
    exact .same

@[simp] theorem agree_bool {value : Bool} : Agree (bool value) given other ↔ given = other :=
  agree_iff_of_leaf fun _ object => by cases object

@[simp] theorem agree_string {text : String} : Agree (string text) given other ↔ given = other :=
  agree_iff_of_leaf fun _ object => by cases object

@[simp] theorem agree_ofByte {value : UInt8} : Agree (ofByte value) given other ↔ given = other :=
  agree_iff_of_leaf fun _ object => by cases object

@[simp] theorem agree_ofSpelled {α : Type} [Spelled α] {value : α} :
    Agree (ofSpelled value) given other ↔ given = other :=
  agree_iff_of_leaf fun _ object => by cases object

@[simp] theorem agree_ofNullable {α : Type} [Spelled α] {value : Option α} :
    Agree (ofNullable ofSpelled value) given other ↔ given = other :=
  agree_iff_of_leaf fun _ object => by cases value <;> cases object

end Leaves

/-- Members with a field in them: what they give under its name is filled up, and its base is added where they give
nothing. -/
def giveField (name : String) (base : Json) (fillUp : Json → Json) (members : List (String × Json)) :
    List (String × Json) :=
  match members.lookup name with
  | some _ => members.map fun member => (member.1, if member.1 = name then fillUp member.2 else member.2)
  | none => members ++ [(name, base)]

mutual

/-- A value with what its objects leave out filled in from a base. -/
def fill : Json → Json → Json
  | object fields, object members => object (fillMembers fields members)
  | _, given => given

def fillMembers : List (String × Json) → List (String × Json) → List (String × Json)
  | [], members => members
  | (name, base) :: fields, members => fillMembers fields (giveField name base (fill base) members)

end

variable {name other : String} {base : Json} {fillUp : Json → Json} {names : List String}

theorem lookup_map (change : String → Json → Json) (name : String) (members : List (String × Json)) :
    (members.map fun member => (member.1, change member.1 member.2)).lookup name =
      (members.lookup name).map (change name) := by
  induction members with
  | nil => rfl
  | cons member later ih =>
    obtain ⟨first, given⟩ := member
    by_cases same : name = first
    · simp [same]
    · simp [List.lookup_cons, beq_false_of_ne same, ih]

theorem lookup_giveField_self (members : List (String × Json)) :
    (giveField name base fillUp members).lookup name = some ((members.lookup name).elim base fillUp) := by
  unfold giveField
  split
  · next found => simp [lookup_map fun first given => if first = name then fillUp given else given, found]
  · next missing => simp [List.lookup_append, missing]

theorem lookup_giveField_ne (distinct : other ≠ name) (members : List (String × Json)) :
    (giveField name base fillUp members).lookup other = members.lookup other := by
  unfold giveField
  split
  · simp [lookup_map fun first given => if first = name then fillUp given else given, distinct]
  · simp [List.lookup_append, List.lookup_cons, beq_false_of_ne distinct]

/-- A field is never put beside one of its name. -/
theorem givesOnce_giveField (members : List (String × Json)) :
    GivesOnce names (giveField name base fillUp members) ↔ GivesOnce names members := by
  unfold giveField GivesOnce
  split
  · rw [List.map_map, Function.comp_def]
  · next missing =>
    have absent : name ∉ (members.map Prod.fst).filter names.contains := by
      intro member
      obtain ⟨⟨_, given⟩, inside, rfl⟩ := List.mem_map.mp (List.mem_of_mem_filter member)
      simpa using List.lookup_eq_none_iff.mp missing _ inside
    rw [List.map_append, List.filter_append, List.map_singleton, List.filter_singleton]
    cases names.contains name with
    | true => exact List.nodup_append_comm.trans (List.nodup_cons.trans (and_iff_right absent))
    | false => rw [cond_false, List.append_nil]

theorem fillMembers_frame {fields : List (String × Json)} (missing : name ∉ fields.map Prod.fst)
    (members : List (String × Json)) : (fillMembers fields members).lookup name = members.lookup name := by
  induction fields generalizing members with
  | nil => rfl
  | cons field later ih =>
    obtain ⟨different, others⟩ := not_or.mp (mt List.mem_cons.mpr missing)
    rw [fillMembers, ih others, lookup_giveField_ne different]

theorem name_ne_of_mem {first field : String × Json} {later : List (String × Json)}
    (absent : first.1 ∉ later.map Prod.fst) (member : field ∈ later) : field.1 ≠ first.1 := by
  intro same
  exact absent (same ▸ List.mem_map_of_mem member)

theorem lookup_fillMembers {fields : List (String × Json)} (distinct : (fields.map Prod.fst).Nodup)
    {field : String × Json} (member : field ∈ fields) (members : List (String × Json)) :
    (fillMembers fields members).lookup field.1 = some ((members.lookup field.1).elim field.2 (fill field.2)) := by
  induction fields generalizing members with
  | nil => cases member
  | cons first later ih =>
    obtain ⟨absent, rest⟩ := List.nodup_cons.mp distinct
    rcases List.mem_cons.mp member with rfl | inside
    · rw [fillMembers, fillMembers_frame absent, lookup_giveField_self]
    · rw [fillMembers, ih rest inside, lookup_giveField_ne (name_ne_of_mem absent inside)]

theorem givesOnce_fillMembers (fields members : List (String × Json)) :
    GivesOnce names (fillMembers fields members) ↔ GivesOnce names members := by
  induction fields generalizing members with
  | nil => rfl
  | cons first later ih => rw [fillMembers, ih, givesOnce_giveField]

mutual

/-- No object in a value gives a name twice. -/
def Distinct : Json → Prop
  | object fields => (fields.map Prod.fst).Nodup ∧ DistinctMembers fields
  | null | bool _ | integer _ | real _ | string _ | array _ => True

def DistinctMembers : List (String × Json) → Prop
  | [] => True
  | (_, value) :: fields => value.Distinct ∧ DistinctMembers fields

end

@[simp] theorem distinct_ofByte (value : UInt8) : (ofByte value).Distinct := trivial

@[simp] theorem distinct_ofSpelled {α : Type} [Spelled α] (value : α) : (ofSpelled value).Distinct := trivial

@[simp] theorem distinct_ofNullable {α : Type} [Spelled α] (value : Option α) :
    (ofNullable ofSpelled value).Distinct := by
  cases value <;> trivial

theorem agree_fill_object {fields : List (String × Json)} (distinct : (fields.map Prod.fst).Nodup)
    (each : ∀ field ∈ fields, ∀ given, Agree field.2 given (fill field.2 given)) (given : Json) :
    Agree (object fields) given (fill (object fields) given) := by
  cases given with
  | object members =>
    rw [fill]
    refine .members (givesOnce_fillMembers fields members).symm fun field member => ?_
    rw [lookup_fillMembers distinct member, Option.getD_some]
    cases members.lookup field.1 with
    | none => exact .same
    | some given => exact each field member given
  | null | bool | integer | real | string | array => exact .same

mutual

/-- What is filled up from a base gives the same as before. -/
theorem agree_fill : ∀ {base : Json}, base.Distinct → ∀ given, Agree base given (fill base given)
  | object _, ⟨distinct, members⟩, given => agree_fill_object distinct (agree_fill_members members) given
  | null, _, _ | bool _, _, _ | integer _, _, _ | real _, _, _ | string _, _, _ | array _, _, _ => .same

theorem agree_fill_members : ∀ {fields : List (String × Json)}, DistinctMembers fields →
    ∀ field ∈ fields, ∀ given, Agree field.2 given (fill field.2 given)
  | [], _ => fun _ member => nomatch member
  | (_, _) :: _, ⟨first, later⟩ => List.forall_mem_cons.mpr ⟨agree_fill first, agree_fill_members later⟩

end

example : fill (object [("zone", object [("text", string "-"), ("wide", bool true)]), ("size", .null)])
    (object [("note", .null), ("zone", object [("wide", bool false)])]) =
      object [("note", .null), ("zone", object [("wide", bool false), ("text", string "-")]), ("size", .null)] := by
  rfl

@[simp] theorem bool?_bool (value : Bool) : bool? (bool value) = some value := rfl

@[simp] theorem string?_string (text : String) : string? (string text) = some text := rfl

@[simp] theorem byte?_ofByte (value : UInt8) : byte? (ofByte value) = some value := by
  have below : value.toNat < 256 := value.toNat_lt
  have bounds : (0 : Int) ≤ value.toNat ∧ (value.toNat : Int) < 256 := by omega
  rw [ofByte, byte?, if_pos bounds, Int.toNat_natCast, UInt8.ofNat_toNat]

@[simp] theorem spelled?_ofSpelled {α : Type} [Spelled α] (value : α) : spelled? (ofSpelled value) = some value :=
  Spelled.ofSpelling?_spelling value

@[simp] theorem nullable?_ofNullable {α : Type} [Spelled α] (value : Option α) :
    nullable? spelled? (ofNullable ofSpelled value) = some value := by
  cases value with
  | none => rfl
  | some value => exact congrArg (Option.map some) (spelled?_ofSpelled value)

/-- A field left out is read as if its base were given. -/
theorem field?_eq_read {α : Type} {read? : Json → Option α} {base : α} {written : Json}
    (back : read? written = some base) (fields : String → Option Json) (name : String) :
    field? fields name read? base = read? ((fields name).getD written) := by
  unfold field?
  split
  · next given => rw [given, Option.getD_some]
  · next missing => rw [missing, Option.getD_none, back]

section Fields

variable (fields : String → Option Json) (name : String)

theorem field?_bool (base : Bool) : field? fields name bool? base = bool? ((fields name).getD (bool base)) :=
  field?_eq_read (bool?_bool base) fields name

theorem field?_string (base : String) :
    field? fields name string? base = string? ((fields name).getD (string base)) :=
  field?_eq_read (string?_string base) fields name

theorem field?_byte (base : UInt8) : field? fields name byte? base = byte? ((fields name).getD (ofByte base)) :=
  field?_eq_read (byte?_ofByte base) fields name

theorem field?_spelled {α : Type} [Spelled α] (base : α) :
    field? fields name spelled? base = spelled? ((fields name).getD (ofSpelled base)) :=
  field?_eq_read (spelled?_ofSpelled base) fields name

theorem field?_nullable {α : Type} [Spelled α] (base : Option α) :
    field? fields name (nullable? spelled?) base =
      nullable? spelled? ((fields name).getD (ofNullable ofSpelled base)) :=
  field?_eq_read (nullable?_ofNullable base) fields name

end Fields

theorem lookup_of_mem {fields : List (String × Json)} (distinct : (fields.map Prod.fst).Nodup)
    {field : String × Json} (member : field ∈ fields) : fields.lookup field.1 = some field.2 := by
  induction fields with
  | nil => cases member
  | cons first later ih =>
    obtain ⟨absent, rest⟩ := List.nodup_cons.mp distinct
    rcases List.mem_cons.mp member with rfl | inside
    · exact List.lookup_cons_self
    · rw [List.lookup_cons, beq_false_of_ne (name_ne_of_mem absent inside)]
      exact ih rest inside

/-- A record that gives every field is read by just what it gives. -/
theorem record?_bind_object {α : Type} {names : List String} {fields : List (String × Json)} {value : α}
    {read? : (String → Option Json) → Option α} (distinct : names.Nodup) (given : fields.map Prod.fst = names)
    (reads : ∀ found : String → Option Json, (∀ field ∈ fields, found field.1 = some field.2) →
      read? found = some value) : (record? names (object fields)).bind read? = some value := by
  have once : GivesOnce names fields := by
    rw [GivesOnce, given]
    exact distinct.sublist List.filter_sublist
  have found : record? names (object fields) = _ := if_pos once
  rw [found]
  exact reads _ fun _ member => lookup_of_mem (given ▸ distinct) member

/-- Records that agree over a base read alike, if they are read by their fields, as the base fills them up. -/
theorem Agree.record?_bind {α : Type} {fields : List (String × Json)} {given other : Json}
    (agree : Agree (object fields) given other) {read? : (String → Option Json) → Option α}
    (reads : ∀ found again : String → Option Json,
      (∀ field ∈ fields, Agree field.2 ((found field.1).getD field.2) ((again field.1).getD field.2)) →
      read? found = read? again) :
    (record? (fields.map Prod.fst) given).bind read? = (record? (fields.map Prod.fst) other).bind read? := by
  cases agree with
  | same => rfl
  | @members _ given other once each =>
    by_cases single : GivesOnce (fields.map Prod.fst) given
    · have first : record? _ (object given) = _ := if_pos single
      have second : record? _ (object other) = _ := if_pos (once.mp single)
      rw [first, second]
      exact reads _ _ each
    · have first : record? _ (object given) = _ := if_neg single
      have second : record? _ (object other) = _ := if_neg (mt once.mpr single)
      rw [first, second]

end Json

end CellFormat
