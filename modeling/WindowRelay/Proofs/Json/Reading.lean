import WindowRelay.Proofs.Json.Numbers
import WindowRelay.Proofs.Json.Strings

/-!
Contract: values that are written and read back.

Owns:
- the written form of arrays and objects by the written forms of their parts;
- a machine that holds a complete value, and what the next byte does to it;
- a written value is read as itself, but for the form of its decimals.

What cannot be read as data is written as `null`.
-/

namespace WindowRelay

namespace Json

/-! ## The written form -/

mutual

theorem emit_eq_append (value : Json) (output : List UInt8) :
    emit value output = emit value [] ++ output := by
  match value with
  | .null | .unreadable | .bool true | .bool false | .number _ | .array [] | .object [] =>
      simp [emit]
  | .string text => simp [emit, emitText_eq]
  | .array (item :: rest) =>
      rw [emit, emit, emitItems_eq_append rest (emit item (_ :: output)),
        emitItems_eq_append rest (emit item [_]), emit_eq_append item (_ :: output),
        emit_eq_append item [_]]
      simp
  | .object ((name, value) :: rest) =>
      rw [emit, emit, emitText_eq, emitText_eq, emitMembers_eq_append rest (emit value _),
        emitMembers_eq_append rest (emit value (_ :: (_ ++ [_]))),
        emit_eq_append value (_ :: (_ ++ _ :: output)), emit_eq_append value (_ :: (_ ++ [_]))]
      simp

theorem emitItems_eq_append (items : List Json) (output : List UInt8) :
    emitItems items output = emitItems items [] ++ output := by
  match items with
  | [] => rfl
  | item :: rest =>
      rw [emitItems, emitItems, emitItems_eq_append rest (emit item (_ :: output)),
        emitItems_eq_append rest (emit item [_]), emit_eq_append item (_ :: output),
        emit_eq_append item [_]]
      simp

theorem emitMembers_eq_append (members : List (String × Json)) (output : List UInt8) :
    emitMembers members output = emitMembers members [] ++ output := by
  match members with
  | [] => rfl
  | (name, value) :: rest =>
      rw [emitMembers, emitMembers, emitText_eq, emitText_eq,
        emitMembers_eq_append rest (emit value (_ :: (_ ++ _ :: output))),
        emitMembers_eq_append rest (emit value (_ :: (_ ++ [_]))),
        emit_eq_append value (_ :: (_ ++ _ :: output)), emit_eq_append value (_ :: (_ ++ [_]))]
      simp

end

theorem emit_eq (value : Json) (output : List UInt8) :
    emit value output = value.toBytes.reverse ++ output := by
  rw [emit_eq_append, toBytes, List.reverse_reverse]

/-- Items behind the first one, each behind a comma. -/
def moreItems (items : List Json) : List UInt8 :=
  items.flatMap fun item => Ascii.comma :: item.toBytes

/-- A member: its name, and its value behind a colon. -/
def memberBytes (member : String × Json) : List UInt8 :=
  textBytes member.1 ++ Ascii.colon :: member.2.toBytes

/-- Members behind the first one, each behind a comma. -/
def moreMembers (members : List (String × Json)) : List UInt8 :=
  members.flatMap fun member => Ascii.comma :: memberBytes member

theorem emitItems_eq (items : List Json) (output : List UInt8) :
    emitItems items output = (moreItems items).reverse ++ output := by
  induction items generalizing output with
  | nil => rfl
  | cons item rest inductionHypothesis =>
      rw [emitItems, inductionHypothesis, emit_eq]
      simp [moreItems]

theorem emitMembers_eq (members : List (String × Json)) (output : List UInt8) :
    emitMembers members output = (moreMembers members).reverse ++ output := by
  induction members generalizing output with
  | nil => rfl
  | cons member rest inductionHypothesis =>
      rw [emitMembers, inductionHypothesis, emit_eq, emitText_eq]
      simp [moreMembers, memberBytes]

theorem toBytes_array_cons (item : Json) (rest : List Json) :
    (array (item :: rest)).toBytes =
      Ascii.openBracket :: (item.toBytes ++ (moreItems rest ++ [Ascii.closeBracket])) := by
  rw [toBytes, emit, emitItems_eq, emit_eq]
  simp

theorem toBytes_object_cons (member : String × Json) (rest : List (String × Json)) :
    (object (member :: rest)).toBytes =
      Ascii.openBrace :: (memberBytes member ++ (moreMembers rest ++ [Ascii.closeBrace])) := by
  rw [toBytes, emit, emitMembers_eq, emit_eq, emitText_eq]
  simp [memberBytes]

theorem toBytes_number (value : Number) : (number value).toBytes = value.bytes := by
  simp [toBytes, emit]

theorem toBytes_string (text : String) : (string text).toBytes = textBytes text := by
  simp [toBytes, emit, emitText_eq]

/-! ## Complete values -/

open Machine

/-- The machine is behind a complete value. Whether a number or a word ends is only known from the
next byte. -/
inductive Machine.Holds (frames : List Frame) : Json → Machine → Prop where
  | complete (value : Json) : Holds frames value ⟨.complete value, frames⟩
  | word (value : Json) : Holds frames value ⟨.word [] value, frames⟩
  | number {scan : NumberScan} {number : Number} (ends : scan.number? = some number) :
      Holds frames (.number number) ⟨.number scan, frames⟩

/-- The bytes that may stand behind a value without a blank. -/
def IsDelimiter (byte : UInt8) : Prop :=
  byte = Ascii.comma ∨ byte = Ascii.closeBracket ∨ byte = Ascii.closeBrace

/-- No number goes on with a delimiter. -/
theorem push?_delimiter {byte : UInt8} (delimits : IsDelimiter byte) (scan : NumberScan) :
    scan.push? byte = none := by
  rcases delimits with rfl | rfl | rfl
  all_goals cases scan <;> rfl

section Reading

variable {frames outer : List Frame} {value : Json} {machine : Machine} {bytes : List UInt8}

theorem Machine.Holds.step? (holds : Holds frames value machine) {byte : UInt8}
    (delimits : IsDelimiter byte) : machine.step? byte = afterValue? value byte frames := by
  cases holds with
  | complete | word => rfl
  | number ends => simp [Machine.step?, push?_delimiter delimits, ends]

theorem Machine.Holds.value? (holds : Holds [] value machine) : machine.value? = some value := by
  cases holds with
  | complete | word => rfl
  | number ends => simp [Machine.value?, ends]

/-- Some bytes are read as a value, wherever one may stand. -/
structure Reads (bytes : List UInt8) (value : Json) : Prop where
  starts : ∃ first rest, bytes = first :: rest ∧ isBlank first = false ∧
    first ≠ Ascii.closeBracket
  reads : ∀ frames, ∃ machine, run? ⟨.value, frames⟩ bytes = some machine ∧
    Holds frames value machine

/-- A value may also come first in an array. -/
theorem Reads.readsFirst (reads : Reads bytes value) (frames : List Frame) :
    ∃ machine, run? ⟨.itemOrClose, frames⟩ bytes = some machine ∧ Holds frames value machine := by
  obtain ⟨first, rest, rfl, notBlank, notClose⟩ := reads.starts
  obtain ⟨machine, ran, holds⟩ := reads.reads frames
  refine ⟨machine, ?_, holds⟩
  have same : Machine.step? ⟨.itemOrClose, frames⟩ first =
      Machine.step? ⟨.value, frames⟩ first := by
    simp [Machine.step?, notBlank, notClose]
  rw [run?] at ran ⊢
  rw [same]
  exact ran

/-! ## Plain values -/

theorem reads_null : Reads (Text.bytes "null") null where
  starts := ⟨_, _, rfl, rfl, by decide⟩
  reads frames := ⟨_, rfl, .word null⟩

theorem reads_true : Reads (Text.bytes "true") (bool true) where
  starts := ⟨_, _, rfl, rfl, by decide⟩
  reads frames := ⟨_, rfl, .word (bool true)⟩

theorem reads_false : Reads (Text.bytes "false") (bool false) where
  starts := ⟨_, _, rfl, rfl, by decide⟩
  reads frames := ⟨_, rfl, .word (bool false)⟩

theorem reads_text (text : String) : Reads (textBytes text) (string text) where
  starts := ⟨_, _, rfl, rfl, by decide⟩
  reads frames := ⟨_, run?_textValue text, .complete (string text)⟩

theorem beginValue?_of_begin? {byte : UInt8} {start : NumberScan}
    (begins : NumberScan.begin? byte = some start) :
    (∀ frames, beginValue? byte frames = some ⟨.number start, frames⟩) ∧
      isBlank byte = false ∧ byte ≠ Ascii.closeBracket := by
  unfold NumberScan.begin? at begins
  split at begins
  · next isMinus =>
      cases begins
      subst isMinus
      exact ⟨fun _ => rfl, rfl, by decide⟩
  · next notMinus =>
      obtain ⟨value, digit, rfl⟩ := Option.map_eq_some_iff.mp begins
      have differs : ∀ other, Ascii.digit? other = none → byte ≠ other := by
        rintro other noDigit rfl
        rw [noDigit] at digit
        cases digit
      refine ⟨fun frames => ?_, ?_, differs _ rfl⟩
      · simp [beginValue?, differs _ (rfl : Ascii.digit? Ascii.quote = none),
          differs _ (rfl : Ascii.digit? Ascii.openBracket = none),
          differs _ (rfl : Ascii.digit? Ascii.openBrace = none), notMinus,
          differs _ (rfl : Ascii.digit? (Ascii.letter 'n') = none),
          differs _ (rfl : Ascii.digit? (Ascii.letter 't') = none),
          differs _ (rfl : Ascii.digit? (Ascii.letter 'f') = none), digit]
      · simp [isBlank, differs _ (rfl : Ascii.digit? Ascii.space = none),
          differs _ (rfl : Ascii.digit? Ascii.tab = none),
          differs _ (rfl : Ascii.digit? Ascii.lineFeed = none),
          differs _ (rfl : Ascii.digit? Ascii.carriageReturn = none)]

theorem run?_number {scan last : NumberScan} (ran : scan.run? bytes = some last)
    (frames : List Frame) :
    Machine.run? ⟨.number scan, frames⟩ bytes = some ⟨.number last, frames⟩ := by
  induction bytes generalizing scan with
  | nil =>
      cases ran
      rfl
  | cons byte rest inductionHypothesis =>
      cases pushed : scan.push? byte with
      | none => simp [NumberScan.run?, pushed] at ran
      | some next =>
          rw [NumberScan.run?_cons pushed] at ran
          have stepped : Machine.step? ⟨.number scan, frames⟩ byte =
              some ⟨.number next, frames⟩ := by
            simp only [Machine.step?, pushed]
          rw [run?_cons stepped, inductionHypothesis ran]

theorem reads_number (number : Number) : Reads number.bytes (.number number.reread) := by
  have comesBack := number.read?_bytes
  cases written : number.bytes with
  | nil =>
      rw [written] at comesBack
      cases comesBack
  | cons first rest =>
      rw [written] at comesBack
      obtain ⟨start, begins, later⟩ := Option.bind_eq_some_iff.mp comesBack
      obtain ⟨last, ran, ends⟩ := Option.bind_eq_some_iff.mp later
      obtain ⟨opens, notBlank, notClose⟩ := beginValue?_of_begin? begins
      refine ⟨⟨first, rest, rfl, notBlank, notClose⟩, fun frames =>
        ⟨_, (run?_cons ?_).trans (run?_number ran frames), .number ends⟩⟩
      rw [← opens frames]
      simp [Machine.step?, notBlank]

end Reading

/-! ## Containers -/

mutual

/-- The value that comes back when a value is written and read. -/
def reread : Json → Json
  | null | unreadable => null
  | bool value => bool value
  | number value => number value.reread
  | string text => string text
  | array items => array (rereadItems items)
  | object members => object (rereadMembers members)

def rereadItems : List Json → List Json
  | [] => []
  | item :: rest => reread item :: rereadItems rest

def rereadMembers : List (String × Json) → List (String × Json)
  | [] => []
  | (name, value) :: rest => (name, reread value) :: rereadMembers rest

end

theorem rereadItems_eq (items : List Json) : rereadItems items = items.map reread := by
  induction items with
  | nil => rfl
  | cons item rest inductionHypothesis => rw [rereadItems, inductionHypothesis, List.map_cons]

theorem rereadMembers_eq (members : List (String × Json)) :
    rereadMembers members = members.map fun member => (member.1, member.2.reread) := by
  induction members with
  | nil => rfl
  | cons member rest inductionHypothesis =>
      rw [rereadMembers, inductionHypothesis, List.map_cons]

section Containers

variable {machine : Machine} {value : Json} {before items : List Json} {outer : List Frame}
  {members seen : List (String × Json)} {name : String}

/-- Behind an item, the rest of the array is read. The induction is on the items that follow. -/
theorem Machine.Holds.run?_items (holds : Holds (.items before :: outer) value machine)
    (each : ∀ item ∈ items, Reads item.toBytes item.reread) :
    machine.run? (moreItems items ++ [Ascii.closeBracket]) =
      some ⟨.complete (.array ((value :: before).reverse ++ items.map reread)), outer⟩ := by
  induction items generalizing machine value before with
  | nil =>
      refine (run?_cons (holds.step? (.inr (.inl rfl)))).trans ?_
      simp [run?]
  | cons item rest inductionHypothesis =>
      obtain ⟨next, ran, holdsNext⟩ :=
        (each item List.mem_cons_self).reads (.items (value :: before) :: outer)
      have continued := inductionHypothesis holdsNext fun item member =>
        each item (List.mem_cons_of_mem _ member)
      have comma : machine.step? Ascii.comma =
          some ⟨.value, .items (value :: before) :: outer⟩ := holds.step? (.inl rfl)
      rw [moreItems, List.flatMap_cons, List.append_assoc, List.cons_append, run?_cons comma,
        run?_append, ran, Option.bind_some]
      refine continued.trans ?_
      simp

theorem reads_array (each : ∀ item ∈ items, Reads item.toBytes item.reread) :
    Reads (array items).toBytes (array items).reread := by
  cases items with
  | nil => exact ⟨⟨_, _, rfl, rfl, by decide⟩, fun frames => ⟨_, rfl, .complete (array [])⟩⟩
  | cons item rest =>
      rw [toBytes_array_cons, reread, rereadItems_eq]
      refine ⟨⟨_, _, rfl, rfl, by decide⟩, fun frames => ⟨_, ?_, .complete _⟩⟩
      obtain ⟨machine, ran, holds⟩ :=
        (each item List.mem_cons_self).readsFirst (.items [] :: frames)
      have opens : Machine.step? ⟨.value, frames⟩ Ascii.openBracket =
          some ⟨.itemOrClose, .items [] :: frames⟩ := rfl
      rw [run?_cons opens, run?_append, ran, Option.bind_some]
      refine (holds.run?_items fun item member =>
        each item (List.mem_cons_of_mem _ member)).trans ?_
      simp

/-- A member is read, be it the first one of its object or not. -/
theorem run?_member {member : String × Json} {scan : Scan}
    (expects : scan = .name ∨ scan = .nameOrClose)
    (reads : Reads member.2.toBytes member.2.reread) (seen : List (String × Json))
    (former : Option String) (outer : List Frame) :
    ∃ machine, run? ⟨scan, .members (some seen) former :: outer⟩ (memberBytes member) =
        some machine ∧
      Holds (.members (some seen) (some member.1) :: outer) member.2.reread machine := by
  obtain ⟨machine, ran, holds⟩ := reads.reads (.members (some seen) (some member.1) :: outer)
  refine ⟨machine, ?_, holds⟩
  have colon : Machine.step? ⟨.colon, .members (some seen) (some member.1) :: outer⟩ Ascii.colon =
      some ⟨.value, .members (some seen) (some member.1) :: outer⟩ := rfl
  rw [memberBytes, run?_append, run?_textName member.1 expects, Option.bind_some, run?_cons colon,
    ran]

/-- Behind a member, the rest of the object is read. -/
theorem Machine.Holds.run?_members
    (holds : Holds (.members (some seen) (some name) :: outer) value machine)
    (each : ∀ member ∈ members, Reads member.2.toBytes member.2.reread) :
    machine.run? (moreMembers members ++ [Ascii.closeBrace]) =
      some ⟨.complete (.object (((name, value) :: seen).reverse ++
        members.map fun member => (member.1, member.2.reread))), outer⟩ := by
  induction members generalizing machine value name seen with
  | nil =>
      refine (run?_cons (holds.step? (.inr (.inr rfl)))).trans ?_
      simp [run?, withMember, closeObject]
  | cons member rest inductionHypothesis =>
      obtain ⟨next, ran, holdsNext⟩ := run?_member (.inl rfl) (each member List.mem_cons_self)
        ((name, value) :: seen) none outer
      have continued := inductionHypothesis holdsNext fun member isLater =>
        each member (List.mem_cons_of_mem _ isLater)
      have comma : machine.step? Ascii.comma =
          some ⟨.name, .members (some ((name, value) :: seen)) none :: outer⟩ :=
        holds.step? (.inl rfl)
      rw [moreMembers, List.flatMap_cons, List.append_assoc, List.cons_append, run?_cons comma,
        run?_append, ran, Option.bind_some]
      refine continued.trans ?_
      simp

theorem reads_object (each : ∀ member ∈ members, Reads member.2.toBytes member.2.reread) :
    Reads (object members).toBytes (object members).reread := by
  cases members with
  | nil => exact ⟨⟨_, _, rfl, rfl, by decide⟩, fun frames => ⟨_, rfl, .complete (object [])⟩⟩
  | cons member rest =>
      rw [toBytes_object_cons, reread, rereadMembers_eq]
      refine ⟨⟨_, _, rfl, rfl, by decide⟩, fun frames => ⟨_, ?_, .complete _⟩⟩
      obtain ⟨machine, ran, holds⟩ :=
        run?_member (.inr rfl) (each member List.mem_cons_self) [] none frames
      have opens : Machine.step? ⟨.value, frames⟩ Ascii.openBrace =
          some ⟨.nameOrClose, .members (some []) none :: frames⟩ := rfl
      rw [run?_cons opens, run?_append, ran, Option.bind_some]
      refine (holds.run?_members fun member isLater =>
        each member (List.mem_cons_of_mem _ isLater)).trans ?_
      simp

end Containers

/-! ## All values -/

mutual

/-- A written value is read as the value that comes back. -/
theorem reads_toBytes (value : Json) : Reads value.toBytes value.reread := by
  match value with
  | .null | .unreadable => exact reads_null
  | .bool true => exact reads_true
  | .bool false => exact reads_false
  | .number value =>
      rw [toBytes_number]
      exact reads_number value
  | .string text =>
      rw [toBytes_string]
      exact reads_text text
  | .array items => exact reads_array (reads_items items)
  | .object members => exact reads_object (reads_members members)

theorem reads_items (items : List Json) :
    ∀ item ∈ items, Reads item.toBytes item.reread := by
  match items with
  | [] => exact List.forall_mem_nil _
  | item :: rest => exact List.forall_mem_cons.mpr ⟨reads_toBytes item, reads_items rest⟩

theorem reads_members (members : List (String × Json)) :
    ∀ member ∈ members, Reads member.2.toBytes member.2.reread := by
  match members with
  | [] => exact List.forall_mem_nil _
  | (_, value) :: rest => exact List.forall_mem_cons.mpr ⟨reads_toBytes value, reads_members rest⟩

end

/-- Every written value comes back, with the decimals in it as they are read. -/
theorem ofBytes?_toBytes (value : Json) : ofBytes? value.toBytes = some value.reread := by
  obtain ⟨machine, ran, holds⟩ := (reads_toBytes value).reads []
  rw [ofBytes?, ran, Option.bind_some, holds.value?]

end Json

end WindowRelay
