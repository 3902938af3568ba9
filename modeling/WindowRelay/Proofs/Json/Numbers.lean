import WindowRelay.Json.Printer
import WindowRelay.Json.Reader

/-!
Contract: numbers that are written and read back.

Owns:
- the digits of a number, and what a run of digits does to a number that is being read;
- every written number is read to its end; a whole number is read back as it is.

A decimal may come back in another form of the same digits, so only its existence is shown here.
-/

namespace WindowRelay

namespace Ascii

/-- The byte of a digit. -/
def digit (value : Nat) : UInt8 :=
  letter value.digitChar

theorem digit?_digit {value : Nat} (small : value < 10) : digit? (digit value) = some value := by
  have all : ∀ value < 10, digit? (digit value) = some value := by decide
  exact all value small

theorem decimal_of_lt {number : Nat} (small : number < 10) : decimal number = [digit number] := by
  rw [decimal, Nat.toDigits_of_lt_base small]
  rfl

theorem decimal_of_ge {number : Nat} (large : 10 ≤ number) :
    decimal number = decimal (number / 10) ++ [digit (number % 10)] := by
  rw [decimal, Nat.toDigits_of_base_le (by decide) large, List.map_append]
  rfl

/-- Some bytes that are all digits. -/
def AreDigits (bytes : List UInt8) : Prop :=
  ∀ byte ∈ bytes, ∃ value < 10, byte = digit value

theorem areDigits_decimal (number : Nat) : AreDigits (decimal number) := by
  induction number using Nat.strongRecOn with
  | ind number inductionHypothesis =>
      by_cases small : number < 10
      · rw [decimal_of_lt small]
        intro byte member
        exact ⟨number, small, List.mem_singleton.mp member⟩
      · rw [decimal_of_ge (by omega)]
        intro byte member
        rcases List.mem_append.mp member with before | last
        · exact inductionHypothesis (number / 10) (by omega) byte before
        · exact ⟨number % 10, by omega, List.mem_singleton.mp last⟩

theorem areDigits_zeros (count : Nat) : AreDigits (Json.zeros count) := by
  intro byte member
  exact ⟨0, by decide, List.eq_of_mem_replicate member⟩

end Ascii

namespace Json

namespace NumberScan

/-- Take some bytes of a number. -/
def run? (scan : NumberScan) (bytes : List UInt8) : Option NumberScan :=
  bytes.foldlM (fun scan byte => scan.push? byte) scan

theorem run?_append (scan : NumberScan) (earlier later : List UInt8) :
    scan.run? (earlier ++ later) = (scan.run? earlier).bind (·.run? later) := by
  simp [run?, List.foldlM_append]

theorem run?_cons {scan next : NumberScan} {byte : UInt8} {rest : List UInt8}
    (pushed : scan.push? byte = some next) : scan.run? (byte :: rest) = next.run? rest := by
  simp [run?, pushed]

/-- The first byte of a number. -/
def begin? (byte : UInt8) : Option NumberScan :=
  if byte = Ascii.minus then some sign else (Ascii.digit? byte).map (first false)

/-- The number that some bytes spell. -/
def read? : List UInt8 → Option Number
  | [] => none
  | byte :: rest => (begin? byte).bind fun start => (start.run? rest).bind number?

/-! ## Whole numbers -/

theorem push?_whole_digit (negative : Bool) (magnitude : Nat) {value : Nat} (small : value < 10) :
    (whole negative magnitude).push? (Ascii.digit value) =
      some (whole negative (magnitude * 10 + value)) := by
  simp [push?, Ascii.digit?_digit small]

/-- The digits of a number lead from its first digit to the number. -/
theorem run?_decimal (number : Nat) :
    ∃ value < 10, ∃ rest, Ascii.decimal number = Ascii.digit value :: rest ∧
      (number ≠ 0 → value ≠ 0) ∧
      ∀ negative, (first negative value).run? rest =
        some (if number = 0 then zero negative else whole negative number) := by
  induction number using Nat.strongRecOn with
  | ind number inductionHypothesis =>
      by_cases small : number < 10
      · exact ⟨number, small, [], Ascii.decimal_of_lt small, id, fun _ => rfl⟩
      · obtain ⟨value, smallValue, rest, digits, notZero, ran⟩ :=
          inductionHypothesis (number / 10) (by omega)
        refine ⟨value, smallValue, rest ++ [Ascii.digit (number % 10)], ?_,
          fun _ => notZero (by omega), fun negative => ?_⟩
        · rw [Ascii.decimal_of_ge (by omega), digits]
          rfl
        · rw [run?_append, ran, if_neg (by omega), Option.bind_some,
            run?_cons (push?_whole_digit negative _ (by omega : number % 10 < 10)),
            if_neg (by omega), Nat.div_add_mod']
          rfl

/-! ## Stages -/

/-- How far the reading of a number has come. -/
inductive Stage where
  | sign
  | zero
  | whole
  | point
  | fraction
  | mark
  | exponentSign
  | exponent
deriving DecidableEq

def stage : NumberScan → Stage
  | sign => .sign
  | zero _ => .zero
  | whole _ _ => .whole
  | point _ _ => .point
  | fraction _ _ _ => .fraction
  | mark _ _ _ => .mark
  | exponentSign _ _ _ _ => .exponentSign
  | exponent _ _ _ _ _ => .exponent

/-- Some bytes lead from one stage to another. -/
def Leads (bytes : List UInt8) (start finish : Stage) : Prop :=
  ∀ scan : NumberScan, scan.stage = start →
    ∃ next, scan.run? bytes = some next ∧ next.stage = finish

variable {earlier later bytes : List UInt8} {start middle finish : Stage}

theorem Leads.append (first : Leads earlier start middle) (second : Leads later middle finish) :
    Leads (earlier ++ later) start finish := by
  intro scan isStart
  obtain ⟨between, ran, isMiddle⟩ := first scan isStart
  obtain ⟨last, ranOn, isFinish⟩ := second between isMiddle
  exact ⟨last, by rw [run?_append, ran, Option.bind_some, ranOn], isFinish⟩

theorem leads_nil (stage : Stage) : Leads [] stage stage :=
  fun scan isStart => ⟨scan, rfl, isStart⟩

theorem leads_singleton {byte : UInt8} (pushes : ∀ scan : NumberScan, scan.stage = start →
    ∃ next, scan.push? byte = some next ∧ next.stage = finish) : Leads [byte] start finish := by
  intro scan isStart
  obtain ⟨next, pushed, isFinish⟩ := pushes scan isStart
  exact ⟨next, run?_cons pushed, isFinish⟩

/-- The stages in which any number of digits may follow. -/
def Stage.takesDigits : Stage → Bool
  | .whole | .fraction | .exponent => true
  | _ => false

/-- The stage behind a digit. -/
def Stage.behindDigit : Stage → Stage
  | .point => .fraction
  | .exponentSign => .exponent
  | stage => stage

theorem leads_digit {value : Nat} (small : value < 10)
    (takes : start.behindDigit.takesDigits = true) :
    Leads [Ascii.digit value] start start.behindDigit := by
  refine leads_singleton fun scan isStart => ?_
  subst isStart
  cases scan <;> cases takes
  all_goals exact ⟨_, by simp only [push?, Ascii.digit?_digit small, Option.map_some]; rfl, rfl⟩

theorem leads_digits (takes : start.takesDigits = true) (digits : Ascii.AreDigits bytes) :
    Leads bytes start start := by
  have stays : start.behindDigit = start := by
    cases start <;> first | rfl | cases takes
  induction bytes with
  | nil => exact leads_nil start
  | cons byte rest inductionHypothesis =>
      obtain ⟨value, small, rfl⟩ := digits byte List.mem_cons_self
      have once : Leads [Ascii.digit value] start start.behindDigit :=
        leads_digit small (by rw [stays]; exact takes)
      rw [stays] at once
      exact once.append (inductionHypothesis fun byte member =>
        digits byte (List.mem_cons_of_mem _ member))

/-- One digit must stand behind a point and behind the sign of an exponent, and more may. -/
theorem leads_someDigits (takes : start.behindDigit.takesDigits = true)
    (digits : Ascii.AreDigits bytes) (nonempty : bytes ≠ []) :
    Leads bytes start start.behindDigit := by
  obtain ⟨byte, rest, rfl⟩ := List.exists_cons_of_ne_nil nonempty
  obtain ⟨value, small, rfl⟩ := digits byte List.mem_cons_self
  exact (leads_digit small takes).append
    (leads_digits takes fun byte member => digits byte (List.mem_cons_of_mem _ member))

theorem leads_point (behind : start = .zero ∨ start = .whole) :
    Leads [Ascii.point] start .point := by
  refine leads_singleton fun scan isStart => ?_
  rcases behind with rfl | rfl
  all_goals cases scan <;> cases isStart
  all_goals exact ⟨_, rfl, rfl⟩

theorem leads_mark (behind : start = .whole ∨ start = .fraction) :
    Leads [Ascii.letter 'e'] start .mark := by
  refine leads_singleton fun scan isStart => ?_
  rcases behind with rfl | rfl
  all_goals cases scan <;> cases isStart
  all_goals exact ⟨_, rfl, rfl⟩

theorem leads_exponentSign (down : Prop) [Decidable down] :
    Leads [if down then Ascii.minus else Ascii.plus] .mark .exponentSign := by
  refine leads_singleton fun scan isStart => ?_
  cases scan <;> cases isStart
  split <;> exact ⟨_, rfl, rfl⟩

/-! ## Decimals -/

/-- Some bytes begin with a digit and lead from it to a stage. -/
def Begins (bytes : List UInt8) (finish : Stage) : Prop :=
  ∃ value < 10, ∃ rest, bytes = Ascii.digit value :: rest ∧
    ∀ negative, ∃ last, (first negative value).run? rest = some last ∧ last.stage = finish

theorem Begins.append (begins : Begins earlier middle) (leads : Leads later middle finish) :
    Begins (earlier ++ later) finish := by
  obtain ⟨value, small, rest, rfl, ran⟩ := begins
  refine ⟨value, small, rest ++ later, rfl, fun negative => ?_⟩
  obtain ⟨between, ranFirst, isMiddle⟩ := ran negative
  obtain ⟨last, ranOn, isFinish⟩ := leads between isMiddle
  exact ⟨last, by rw [run?_append, ranFirst, Option.bind_some, ranOn], isFinish⟩

theorem begins_zero : Begins (zeros 1) .zero :=
  ⟨0, by decide, [], rfl, fun negative => ⟨zero negative, rfl, rfl⟩⟩

/-- The digits of a number but zero, or the first ones of them. -/
theorem begins_take {number : Nat} (notZero : number ≠ 0) (count : Nat) (some : 0 < count) :
    Begins ((Ascii.decimal number).take count) .whole := by
  obtain ⟨value, small, rest, digits, leading, -⟩ := run?_decimal number
  obtain ⟨fewer, rfl⟩ := Nat.exists_eq_add_of_lt some
  have areDigits : Ascii.AreDigits (rest.take fewer) := fun byte member =>
    Ascii.areDigits_decimal number byte
      (digits ▸ List.mem_cons_of_mem _ (List.mem_of_mem_take member))
  refine ⟨value, small, rest.take fewer, by rw [digits]; simp, fun negative => ?_⟩
  refine leads_digits rfl areDigits _ ?_
  simp [first, leading notZero, stage]

theorem begins_decimal {number : Nat} (notZero : number ≠ 0) :
    Begins (Ascii.decimal number) .whole := by
  obtain ⟨value, small, rest, digits, -⟩ := run?_decimal number
  have begins := begins_take notZero (Ascii.decimal number).length (by simp [digits])
  rwa [List.take_length] at begins

/-- The stages in which a number with a fraction or an exponent may end. -/
def Stage.endsDecimal : Stage → Bool
  | .fraction | .exponent => true
  | _ => false

theorem areDigits_drop (number count : Nat) :
    Ascii.AreDigits ((Ascii.decimal number).drop count) := fun byte member =>
  Ascii.areDigits_decimal number byte (List.mem_of_mem_drop member)

theorem decimal_ne_nil (number : Nat) : Ascii.decimal number ≠ [] := by
  obtain ⟨value, -, rest, digits, -⟩ := run?_decimal number
  simp [digits]

/-- A point and some digits behind it. -/
theorem leads_fraction (behind : start = .zero ∨ start = .whole)
    (digits : Ascii.AreDigits bytes) (nonempty : bytes ≠ []) :
    Leads (Ascii.point :: bytes) start .fraction :=
  (leads_point behind).append (leads_someDigits rfl digits nonempty)

/-- The mark of an exponent, its sign and its digits. -/
theorem leads_exponent (behind : start = .whole ∨ start = .fraction) (power : Int) :
    Leads ([Ascii.letter 'e', if power < 0 then Ascii.minus else Ascii.plus] ++
      Ascii.decimal power.natAbs) start .exponent :=
  ((leads_mark behind).append (leads_exponentSign (power < 0))).append
    (leads_someDigits rfl (Ascii.areDigits_decimal _) (decimal_ne_nil _))

/-- Every magnitude of a decimal, however it is laid out, is one of a number. -/
theorem begins_magnitude (significand : Nat) (exponent : Int) :
    ∃ finish, finish.endsDecimal = true ∧ Begins (Json.magnitude significand exponent) finish := by
  unfold Json.magnitude
  dsimp only
  split
  · next isZero =>
      subst isZero
      refine ⟨.fraction, rfl, ?_⟩
      exact (begins_zero.append (leads_point (.inl rfl))).append
        (leads_someDigits rfl (Ascii.areDigits_zeros 1) (by decide))
  · next notZero =>
      have zero : Ascii.AreDigits (zeros 1) := Ascii.areDigits_zeros 1
      split
      · have whole := (begins_decimal notZero).append
          (leads_digits rfl (Ascii.areDigits_zeros exponent.toNat))
        refine ⟨.fraction, rfl, ?_⟩
        rw [List.append_assoc, List.singleton_append]
        exact whole.append (leads_fraction (.inr rfl) zero (by decide))
      · next notWhole =>
          split
          · next inside =>
              simp only [Bool.and_eq_true, decide_eq_true_eq] at notWhole inside
              refine ⟨.fraction, rfl, ?_⟩
              rw [List.append_assoc, List.singleton_append]
              refine (begins_take notZero _ (by omega)).append
                (leads_fraction (.inr rfl) (areDigits_drop _ _) ?_)
              rw [ne_eq, List.drop_eq_nil_iff]
              omega
          · split
            · refine ⟨.fraction, rfl, ?_⟩
              rw [List.append_assoc, List.append_assoc, List.singleton_append]
              refine begins_zero.append (leads_fraction (.inl rfl) ?_ ?_)
              · intro byte member
                rcases List.mem_append.mp member with leading | digit
                · exact Ascii.areDigits_zeros _ byte leading
                · exact Ascii.areDigits_decimal _ byte digit
              · exact List.append_ne_nil_of_right_ne_nil _ (decimal_ne_nil _)
            · refine ⟨.exponent, rfl, ?_⟩
              have leading := begins_take notZero 1 (by decide)
              split
              · rw [List.append_nil, List.append_assoc]
                exact leading.append (leads_exponent (.inl rfl) _)
              · next someFraction =>
                  rw [List.append_assoc]
                  refine (leading.append (leads_fraction (.inr rfl) (areDigits_drop _ _) ?_)).append
                    (leads_exponent (.inr rfl) _)
                  simpa using someFraction

/-! ## Numbers that are written -/

theorem number?_of_endsDecimal {scan : NumberScan} (ends : scan.stage.endsDecimal = true) :
    scan.number?.isSome = true := by
  cases scan <;> first | rfl | cases ends

/-- What digits say, with the sign of the number in front or not. -/
theorem read?_signed (negative : Bool) {value : Nat} (small : value < 10) (rest : List UInt8) :
    read? ((if negative then [Ascii.minus] else []) ++ Ascii.digit value :: rest) =
      ((first negative value).run? rest).bind number? := by
  cases negative with
  | true =>
      have pushed : sign.push? (Ascii.digit value) = some (first true value) := by
        simp [push?, Ascii.digit?_digit small]
      exact congrArg (·.bind number?) (run?_cons pushed)
  | false =>
      have notMinus : Ascii.digit value ≠ Ascii.minus := by
        intro isMinus
        have isDigit := Ascii.digit?_digit small
        rw [isMinus] at isDigit
        cases isDigit
      simp [read?, begin?, notMinus, Ascii.digit?_digit small]

end NumberScan

namespace Number

theorem read?_whole (negative : Bool) (magnitude : Nat) :
    NumberScan.read? (whole negative magnitude).bytes = some (whole negative magnitude) := by
  obtain ⟨value, small, rest, digits, -, ran⟩ := NumberScan.run?_decimal magnitude
  rw [bytes, digits, NumberScan.read?_signed negative small, ran, Option.bind_some]
  split
  · next isZero =>
      subst isZero
      rfl
  · rfl

theorem exists_read?_decimal (value : Decimal) :
    ∃ number, NumberScan.read? (decimal value).bytes = some number := by
  obtain ⟨finish, ends, digit, small, rest, body, ran⟩ :=
    NumberScan.begins_magnitude value.significand value.exponent
  obtain ⟨last, ranOn, isFinish⟩ := ran value.negative
  rw [bytes, body, NumberScan.read?_signed _ small, ranOn, Option.bind_some]
  exact Option.isSome_iff_exists.mp (NumberScan.number?_of_endsDecimal (isFinish ▸ ends))

/-- The number that comes back when a number is written and read. -/
def reread (number : Number) : Number :=
  (NumberScan.read? number.bytes).getD number

theorem read?_bytes (number : Number) : NumberScan.read? number.bytes = some number.reread := by
  cases number with
  | whole negative magnitude => rw [reread, read?_whole, Option.getD_some]
  | decimal value =>
      obtain ⟨number, comesBack⟩ := exists_read?_decimal value
      rw [reread, comesBack, Option.getD_some]

theorem reread_whole (negative : Bool) (magnitude : Nat) :
    (whole negative magnitude).reread = whole negative magnitude := by
  rw [reread, read?_whole, Option.getD_some]

end Number

end Json

end WindowRelay
