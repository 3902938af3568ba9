import WindowRelay.Proofs.Json.Reading
import WindowRelay.Wire.Record

/-!
Contract: records and variants that are written and read back.

Owns:
- values that come back as they are and can be read as data;
- numbers, flags, texts, lists and optional values are decoded from what they are encoded as;
- the fields of a record in an object that names each of them once, and the tag of a variant.
-/

namespace WindowRelay

namespace Json

/-! ## Settled values -/

/-- A value that is written and read back as it is, and can be read as data within some depth. -/
structure Settled (depth : Nat) (value : Json) : Prop where
  reread : value.reread = value
  readable : value.isReadable depth = true

variable {depth : Nat}

@[simp]
theorem settled_null (depth : Nat) : Settled depth null := ⟨rfl, rfl⟩

@[simp]
theorem settled_bool (depth : Nat) (value : Bool) : Settled depth (bool value) := ⟨rfl, rfl⟩

@[simp]
theorem settled_string (depth : Nat) (text : String) : Settled depth (string text) := ⟨rfl, rfl⟩

/-- A whole number that fits in 64 bits is exact. -/
theorem settled_whole (depth : Nat) {negative : Bool} {magnitude : Nat}
    (exact : Number.isExact negative magnitude = true) :
    Settled depth (number (.whole negative magnitude)) where
  reread := by rw [Json.reread, Number.reread_whole]
  readable := by simp [isReadable, Number.toBinary32?, exact]

@[simp]
theorem settled_ofUInt32 (depth : Nat) (value : UInt32) : Settled depth (ofUInt32 value) :=
  settled_whole depth (by
    have := value.toNat_lt
    simp [Number.isExact, UInt64.size]
    omega)

@[simp]
theorem settled_ofUInt64 (depth : Nat) (value : UInt64) : Settled depth (ofUInt64 value) :=
  settled_whole depth (by
    have := value.toNat_lt
    simp [Number.isExact, UInt64.size]
    omega)

@[simp]
theorem settled_ofInt32 (depth : Nat) (value : Int32) : Settled depth (ofInt32 value) := by
  refine settled_whole depth ?_
  have := value.toInt_lt
  have := value.le_toInt
  by_cases negative : value.toInt < 0
  · simp [Number.isExact, negative, UInt64.size]
    omega
  · simp [Number.isExact, negative, UInt64.size]
    omega

theorem areReadable_of_forall {items : List Json}
    (each : ∀ item ∈ items, item.isReadable depth = true) : areReadable depth items = true := by
  induction items with
  | nil => rfl
  | cons item rest inductionHypothesis =>
      rw [areReadable, each item List.mem_cons_self,
        inductionHypothesis fun item member => each item (List.mem_cons_of_mem _ member)]
      rfl

theorem areMembersReadable_of_forall {members : List (String × Json)}
    (each : ∀ member ∈ members, member.2.isReadable depth = true) :
    areMembersReadable depth members = true := by
  induction members with
  | nil => rfl
  | cons member rest inductionHypothesis =>
      rw [areMembersReadable, each member List.mem_cons_self,
        inductionHypothesis fun member isLater => each member (List.mem_cons_of_mem _ isLater)]
      rfl

theorem settled_array {items : List Json} (each : ∀ item ∈ items, Settled depth item) :
    Settled (depth + 1) (array items) where
  reread := by
    rw [Json.reread, rereadItems_eq,
      List.map_congr_left fun item member => (each item member).reread, List.map_id']
  readable := areReadable_of_forall fun item member => (each item member).readable

theorem settled_object {members : List (String × Json)}
    (each : ∀ member ∈ members, Settled depth member.2) :
    Settled (depth + 1) (object members) where
  reread := by
    have same : ∀ member ∈ members, (member.1, member.2.reread) = member := fun member isMember =>
      Prod.ext rfl (each member isMember).reread
    rw [Json.reread, rereadMembers_eq, List.map_congr_left same, List.map_id']
  readable := areMembersReadable_of_forall fun member isMember => (each member isMember).readable

variable {α : Type} {encode : α → Json} {decode : Json → Option α}

theorem settled_ofList {values : List α} (each : ∀ value, Settled depth (encode value)) :
    Settled (depth + 1) (ofList encode values) := by
  refine settled_array fun item member => ?_
  obtain ⟨value, -, rfl⟩ := List.mem_map.mp member
  exact each value

theorem settled_ofOption {value : Option α} (each : ∀ value, Settled depth (encode value)) :
    Settled depth (ofOption encode value) := by
  cases value with
  | none => exact settled_null depth
  | some value => exact each value

/-! ## Decoding -/

@[simp]
theorem toUInt32?_ofUInt32 (value : UInt32) : toUInt32? (ofUInt32 value) = some value := by
  have small : value.toNat < UInt32.size := value.toNat_lt
  simp [toUInt32?, ofUInt32, ofNat, Number.ofNat, Number.toNat?, small]

@[simp]
theorem toUInt64?_ofUInt64 (value : UInt64) : toUInt64? (ofUInt64 value) = some value := by
  have small : value.toNat < UInt64.size := value.toNat_lt
  simp [toUInt64?, ofUInt64, ofNat, Number.ofNat, Number.toNat?, small]

@[simp]
theorem toInt32?_ofInt32 (value : Int32) : toInt32? (ofInt32 value) = some value := by
  have below := value.toInt_lt
  have above := value.le_toInt
  by_cases negative : value.toInt < 0
  · have magnitude : -(value.toInt.natAbs : Int) = value.toInt := by omega
    simp only [toInt32?, ofInt32, Number.ofInt, negative, decide_true, Number.toInt32?]
    rw [if_pos (by simp [UInt32.size]; omega), magnitude, Int32.ofInt_toInt]
  · have magnitude : (value.toInt.natAbs : Int) = value.toInt := by omega
    simp only [toInt32?, ofInt32, Number.ofInt, negative, decide_false, Number.toInt32?]
    rw [if_pos (by simp [UInt32.size]; omega), magnitude, Int32.ofInt_toInt]

@[simp]
theorem toBool?_bool (value : Bool) : toBool? (bool value) = some value := rfl

@[simp]
theorem toText?_string (text : String) : toText? (string text) = some text := rfl

theorem mapM_map_eq_some {β : Type} {read : β → Option α} {write : α → β} {values : List α}
    (each : ∀ value ∈ values, read (write value) = some value) :
    (values.map write).mapM read = some values := by
  induction values with
  | nil => rfl
  | cons value rest inductionHypothesis =>
      rw [List.map_cons, List.mapM_cons, each value List.mem_cons_self,
        inductionHypothesis fun value member => each value (List.mem_cons_of_mem _ member)]
      rfl

theorem toList?_ofList {values : List α}
    (each : ∀ value ∈ values, decode (encode value) = some value) :
    toList? decode (ofList encode values) = some values :=
  mapM_map_eq_some each

@[simp]
theorem toList?_texts (texts : List String) : toList? toText? (ofList string texts) = some texts :=
  toList?_ofList fun text _ => toText?_string text

end Json

namespace Wire

open Json

variable {α : Type} {encode : α → Json} {decode : Json → Option α}

/-- An optional value, of which no form is `null`. -/
theorem optional?_ofOption {value : Option α} (each : ∀ value, decode (encode value) = some value)
    (notNull : ∀ value, encode value ≠ .null) :
    (Slot.given (ofOption encode value)).optional? decode = some value := by
  cases value with
  | none => rfl
  | some value =>
      have given := each value
      have isValue := notNull value
      rw [ofOption]
      revert given isValue
      generalize encode value = written
      intro given isValue
      cases written <;> first | exact absurd rfl isValue | simp [Slot.optional?, given]

@[simp]
theorem optional?_text (text : Option String) :
    (Slot.given (ofOption string text)).optional? toText? = some text :=
  optional?_ofOption toText?_string fun _ => Json.noConfusion

/-! ## Records -/

theorem valuesOf_eq_nil {name : String} {members : List (String × Json)}
    (notNamed : name ∉ members.map Prod.fst) : valuesOf name members = [] := by
  have none : members.filter (fun member => member.1 == name) = [] := by
    refine List.filter_eq_nil_iff.mpr fun member isMember => ?_
    simp only [beq_iff_eq]
    rintro rfl
    exact notNamed (List.mem_map_of_mem isMember)
  rw [valuesOf, none, List.map_nil]

theorem valuesOf_of_mem {member : String × Json} {members : List (String × Json)}
    (distinct : (members.map Prod.fst).Nodup) (isMember : member ∈ members) :
    valuesOf member.1 members = [member.2] := by
  induction members with
  | nil => cases isMember
  | cons first rest inductionHypothesis =>
      obtain ⟨notLater, restDistinct⟩ := List.nodup_cons.mp distinct
      rcases List.mem_cons.mp isMember with rfl | later
      · have none := valuesOf_eq_nil notLater
        unfold valuesOf at none ⊢
        rw [List.filter_cons_of_pos (by simp), List.map_cons, none]
      · have differs : first.1 ≠ member.1 := fun same =>
          notLater (same ▸ List.mem_map_of_mem later)
        have found := inductionHypothesis restDistinct later
        unfold valuesOf at found ⊢
        rw [List.filter_cons_of_neg (by simpa using differs), found]

/-- An object that gives every field of a record, and each of them once. -/
theorem slots?_object {names : List String} {members : List (String × Json)}
    (named : members.map Prod.fst = names) (distinct : names.Nodup) :
    slots? names (.object members) = some (members.map fun member => .given member.2) := by
  subst named
  have each : ∀ some : List (String × Json), (∀ member ∈ some, member ∈ members) →
      (some.map Prod.fst).mapM (slotOf? members) =
        Option.some (some.map fun member => .given member.2) := by
    intro some
    induction some with
    | nil => exact fun _ => rfl
    | cons member rest inductionHypothesis =>
        intro among
        have slot : slotOf? members member.1 = Option.some (.given member.2) := by
          rw [slotOf?, valuesOf_of_mem distinct (among member List.mem_cons_self)]
        rw [List.map_cons, List.mapM_cons, slot,
          inductionHypothesis fun member isLater => among member (List.mem_cons_of_mem _ isLater)]
        rfl
  exact each members fun _ => id

/-- A record is read from an object that gives its fields in their order. -/
theorem bind_slots?_object_eq {β : Type} {names : List String} {members : List (String × Json)}
    {next : List Slot → Option β} (named : members.map Prod.fst = names)
    (distinct : names.Nodup) :
    (slots? names (.object members) >>= next) =
      next (members.map fun member => .given member.2) := by
  rw [slots?_object named distinct]
  rfl

theorem bind_slots?_object {β : Type} {names : List String} {members : List (String × Json)}
    {next : List Slot → Option β} {result : β} (named : members.map Prod.fst = names)
    (distinct : names.Nodup)
    (read : next (members.map fun member => .given member.2) = some result) :
    (slots? names (.object members) >>= next) = some result :=
  (bind_slots?_object_eq named distinct).trans read

/-- The tag of a variant whose fields have other names. -/
theorem untag?_tagged {tag name : String} {fields : List (String × Json)}
    (notField : tag ∉ fields.map Prod.fst) :
    untag? tag (tagged tag name fields) = some (.string name, .object fields) := by
  have one : valuesOf tag ((tag, .string name) :: fields) = [.string name] := by
    have none := valuesOf_eq_nil notField
    unfold valuesOf at none ⊢
    rw [List.filter_cons_of_pos (by simp), List.map_cons, none]
  have others : ((tag, Json.string name) :: fields).filter (fun member => member.1 != tag) =
      fields := by
    rw [List.filter_cons_of_neg (by simp), List.filter_eq_self]
    intro member isField
    simp only [bne_iff_ne, ne_eq]
    rintro rfl
    exact notField (List.mem_map_of_mem isField)
  simp only [untag?, tagged, one, others]

/-- A variant is read from its name and from the object of its fields. -/
theorem bind_untag?_tagged {β : Type} {tag name : String} {fields : List (String × Json)}
    {next : Json × Json → Option β} {result : β} (notField : tag ∉ fields.map Prod.fst)
    (read : next (.string name, .object fields) = some result) :
    (untag? tag (tagged tag name fields) >>= next) = some result := by
  rw [untag?_tagged notField]
  exact read

/-- A variant that is given by its name. -/
theorem variant?_string {names : List String} {name : String} (known : name ∈ names)
    (byNumber : Bool) : variant? names byNumber (.string name) = some name := by
  simp [variant?, known]

theorem bind_variant?_string {β : Type} {names : List String} {byNumber : Bool} {name : String}
    {next : String → Option β} {result : β} (known : name ∈ names)
    (read : next name = some result) :
    (variant? names byNumber (.string name) >>= next) = some result := by
  rw [variant?_string known]
  exact read

theorem settled_tagged {depth : Nat} {tag name : String} {fields : List (String × Json)}
    (each : ∀ field ∈ fields, Settled depth field.2) :
    Settled (depth + 1) (tagged tag name fields) :=
  settled_object (List.forall_mem_cons.mpr ⟨settled_string depth name, each⟩)

end Wire

end WindowRelay
