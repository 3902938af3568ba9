import Mathlib.Data.Fintype.Card
import WindowRelay.Input.Gamepads

/-!
Contract: what an enumeration tells of the connected gamepads.

Owns:
- the boundaries between the characters of a text, found among its bytes;
- the cut of every descriptor comes through, and gives the longest admitted name;
- the gamepads of some devices: each id once, in the order of their first records;
- the calls of an enumeration.

A place among the bytes of a text is a boundary just if it is the length of a beginning of the text,
so the search for a boundary is a search for the longest beginning that fits.
-/

namespace WindowRelay

namespace Gamepads

variable {characters front other : List Char} {devices rest : List InputDevice}
  {device : InputDevice}

/-! ## Boundaries -/

/-- The bytes of some characters. -/
def encoded (characters : List Char) : List UInt8 :=
  characters.flatMap String.utf8EncodeChar

theorem bytes_eq_encoded (text : String) : Text.bytes text = encoded text.toList := by
  have spelled := Text.bytes_ofList text.toList
  rwa [String.ofList_toList] at spelled

theorem encoded_cons (character : Char) (rest : List Char) :
    encoded (character :: rest) = String.utf8EncodeChar character ++ encoded rest :=
  rfl

theorem encoded_append (front back : List Char) :
    encoded (front ++ back) = encoded front ++ encoded back :=
  List.flatMap_append

theorem length_encoded_cons (character : Char) (rest : List Char) :
    (encoded (character :: rest)).length = character.utf8Size + (encoded rest).length := by
  rw [encoded_cons, List.length_append, String.length_utf8EncodeChar]

theorem isLead_ofNat_iff {value : Nat} (small : value < 256) :
    isLead (UInt8.ofNat value) = true ↔ value < 0x80 ∨ 0xc0 ≤ value := by
  have sameValue : (UInt8.ofNat value).toNat = value := by
    rw [UInt8.toNat_ofNat']
    exact Nat.mod_eq_of_lt small
  unfold isLead
  rw [Bool.or_eq_true, decide_eq_true_iff, decide_eq_true_iff, UInt8.lt_iff_toNat_lt,
    UInt8.le_iff_toNat_le, sameValue]
  rfl

/-- Only the first byte of a character begins one. -/
theorem exists_encodeChar (character : Char) :
    ∃ first more, String.utf8EncodeChar character = first :: more ∧ isLead first = true ∧
      ∀ byte ∈ more, isLead byte = false := by
  have leads {value : Nat} (small : value < 256) (outside : value < 0x80 ∨ 0xc0 ≤ value) :
      isLead (UInt8.ofNat value) = true :=
    (isLead_ofNat_iff small).mpr outside
  have continues (value : Nat) : isLead (UInt8.ofNat (value % 64 + 128)) = false := by
    rw [← Bool.not_eq_true, isLead_ofNat_iff (by omega)]
    omega
  unfold String.utf8EncodeChar
  dsimp only
  -- One byte, or a first byte of two, three or four.
  split
  · exact ⟨_, _, rfl, leads (by omega) (by omega), List.forall_mem_nil _⟩
  split
  · exact ⟨_, _, rfl, leads (by omega) (by omega),
      List.forall_mem_cons.mpr ⟨continues _, List.forall_mem_nil _⟩⟩
  split
  · exact ⟨_, _, rfl, leads (by omega) (by omega),
      List.forall_mem_cons.mpr ⟨continues _,
        List.forall_mem_cons.mpr ⟨continues _, List.forall_mem_nil _⟩⟩⟩
  · exact ⟨_, _, rfl, leads (by omega) (by omega),
      List.forall_mem_cons.mpr ⟨continues _, List.forall_mem_cons.mpr ⟨continues _,
        List.forall_mem_cons.mpr ⟨continues _, List.forall_mem_nil _⟩⟩⟩⟩

/-- The byte decides at the beginning of a text as well: a character begins there, or the text
ends. -/
theorem isBoundary_encoded (characters : List Char) (place : Nat) :
    isBoundary (encoded characters) place =
      match (encoded characters)[place]? with
      | some byte => isLead byte
      | none => place == (encoded characters).length := by
  cases place with
  | zero =>
      cases characters with
      | nil => rfl
      | cons character rest =>
          obtain ⟨first, more, spelled, lead, -⟩ := exists_encodeChar character
          rw [encoded_cons, spelled]
          exact lead.symm
  | succ place => rfl

/-- Behind a first character are the boundaries of the rest, and inside it there are none. -/
theorem isBoundary_cons_iff (character : Char) (rest : List Char) (place : Nat) :
    isBoundary (encoded (character :: rest)) place = true ↔
      place = 0 ∨
        ∃ later, place = character.utf8Size + later ∧ isBoundary (encoded rest) later = true := by
  rcases Nat.lt_or_ge place character.utf8Size with inside | behind
  · have noLater : ¬ ∃ later, place = character.utf8Size + later ∧
        isBoundary (encoded rest) later = true := by
      rintro ⟨later, rfl, -⟩
      omega
    cases place with
    | zero => exact ⟨fun _ => .inl rfl, fun _ => rfl⟩
    | succ place =>
        obtain ⟨first, more, spelled, -, continued⟩ := exists_encodeChar character
        have size := String.length_utf8EncodeChar character
        rw [spelled, List.length_cons] at size
        have isMore : place < more.length := by omega
        have found : (encoded (character :: rest))[place + 1]? = some more[place] := by
          rw [encoded_cons, spelled, List.cons_append, List.getElem?_cons_succ,
            List.getElem?_append_left isMore, List.getElem?_eq_getElem isMore]
        have notHere : isBoundary (encoded (character :: rest)) (place + 1) = false := by
          rw [isBoundary_encoded, found]
          exact continued _ (List.getElem_mem isMore)
        rw [notHere]
        refine ⟨nofun, ?_⟩
        rintro (atBeginning | isLater)
        · cases atBeginning
        · exact absurd isLater noLater
  · obtain ⟨later, rfl⟩ := Nat.exists_eq_add_of_le behind
    have same : isBoundary (encoded (character :: rest)) (character.utf8Size + later) =
        isBoundary (encoded rest) later := by
      rw [isBoundary_encoded, isBoundary_encoded, length_encoded_cons, encoded_cons,
        List.getElem?_append_right (by simp), String.length_utf8EncodeChar,
        Nat.add_sub_cancel_left]
      cases (encoded rest)[later]? <;> simp
    have positive := character.utf8Size_pos
    rw [same]
    constructor
    · exact fun isBoundary => .inr ⟨later, rfl, isBoundary⟩
    · rintro (atBeginning | ⟨other, isSame, isBoundary⟩)
      · omega
      · obtain rfl : other = later := by omega
        exact isBoundary

/-- The boundaries of a text are the lengths of its beginnings. -/
theorem isBoundary_iff (characters : List Char) (place : Nat) :
    isBoundary (encoded characters) place = true ↔
      ∃ front, front <+: characters ∧ (encoded front).length = place := by
  induction characters generalizing place with
  | nil =>
      cases place with
      | zero => exact ⟨fun _ => ⟨[], List.prefix_rfl, rfl⟩, fun _ => rfl⟩
      | succ place =>
          refine ⟨nofun, ?_⟩
          rintro ⟨front, isFront, isLength⟩
          cases List.prefix_nil.mp isFront
          cases isLength
  | cons character rest inductionHypothesis =>
      rw [isBoundary_cons_iff]
      constructor
      · rintro (rfl | ⟨later, rfl, isBoundary⟩)
        · exact ⟨[], List.nil_prefix, rfl⟩
        · obtain ⟨front, isFront, rfl⟩ := (inductionHypothesis later).mp isBoundary
          exact ⟨character :: front, List.cons_prefix_cons.mpr ⟨rfl, isFront⟩,
            length_encoded_cons character front⟩
      · rintro ⟨_ | ⟨first, front⟩, isFront, rfl⟩
        · exact .inl rfl
        · obtain ⟨rfl, isRest⟩ := List.cons_prefix_cons.mp isFront
          exact .inr ⟨_, length_encoded_cons first front,
            (inductionHypothesis _).mpr ⟨front, isRest, rfl⟩⟩

/-- Of two beginnings of a text, the one that takes no more bytes begins the other. -/
theorem prefix_of_length_encoded_le (isFront : front <+: characters)
    (isOther : other <+: characters) (short : (encoded other).length ≤ (encoded front).length) :
    other <+: front := by
  rcases List.prefix_or_prefix_of_prefix isOther isFront with within | ⟨more, rfl⟩
  · exact within
  · cases more with
    | nil => rw [List.append_nil]
    | cons character rest =>
        have positive := character.utf8Size_pos
        rw [encoded_append, List.length_append, length_encoded_cons] at short
        omega

/-! ## Names -/

/-- The search comes to a boundary, the last one that is not behind its start. -/
theorem retreat_eq_ok (bytes : List UInt8) (limit : Nat) :
    ∃ place ≤ limit, retreat bytes limit = .ok place ∧ isBoundary bytes place = true ∧
      ∀ other ≤ limit, isBoundary bytes other = true → other ≤ place := by
  induction limit with
  | zero => exact ⟨0, Nat.le_refl 0, rfl, rfl, fun _ least _ => least⟩
  | succ limit inductionHypothesis =>
      cases here : isBoundary bytes (limit + 1) with
      | true => exact ⟨limit + 1, Nat.le_refl _, if_pos here, here, fun _ least _ => least⟩
      | false =>
          obtain ⟨place, within, found, isLast, last⟩ := inductionHypothesis
          refine ⟨place, Nat.le_succ_of_le within, (if_neg (by simp [here])).trans found, isLast,
            fun other least isOther => last other ?_ isOther⟩
          have notHere : other ≠ limit + 1 := by
            rintro rfl
            cases here.symm.trans isOther
          omega

/-- A name that begins a descriptor, takes at most 255 bytes, and contains every other such
beginning. -/
structure LongestName (descriptor name : String) : Prop where
  begins : name.toList <+: descriptor.toList
  fits : (Text.bytes name).length ≤ 255
  longest : ∀ other : String, other.toList <+: descriptor.toList →
    (Text.bytes other).length ≤ 255 → other.toList <+: name.toList

/-- The cut of a descriptor comes through, without a fault. -/
theorem cut_eq_ok (descriptor : String) :
    ∃ name, cut descriptor = .ok name ∧ LongestName descriptor name := by
  unfold cut
  dsimp only
  split
  · next short =>
      exact ⟨descriptor, rfl, List.prefix_rfl, short, fun _ isBeginning _ => isBeginning⟩
  · next tooLong =>
      rw [bytes_eq_encoded]
      obtain ⟨place, within, found, isPlace, last⟩ :=
        retreat_eq_ok (encoded descriptor.toList) longestName
      obtain ⟨front, isFront, rfl⟩ := (isBoundary_iff _ _).mp isPlace
      have taken : (encoded descriptor.toList).take (encoded front).length =
          Text.bytes (String.ofList front) := by
        obtain ⟨back, isWhole⟩ := isFront
        rw [← isWhole, encoded_append, List.take_left, Text.bytes_ofList]
        rfl
      refine ⟨String.ofList front, ?_, ?_, ?_, ?_⟩
      · simp only [found, bind, Except.bind, beginning, isPlace, if_true, taken,
          Text.ofBytes?_bytes]
      · rwa [String.toList_ofList]
      · rw [Text.bytes_ofList]
        exact within
      · intro other isOther fits
        rw [bytes_eq_encoded] at fits
        rw [String.toList_ofList]
        exact prefix_of_length_encoded_le isFront isOther
          (last _ fits ((isBoundary_iff _ _).mpr ⟨_, isOther, rfl⟩))

/-- In 128 characters of two bytes each, place 255 is inside the last one. -/
example : retreat (encoded (List.replicate 128 'é')) longestName = .ok 254 := by
  rfl

theorem cut_eq_name (descriptor : String) : cut descriptor = .ok (name descriptor) := by
  obtain ⟨cutName, isCut, -⟩ := cut_eq_ok descriptor
  unfold name
  rw [isCut]

theorem longest_name (descriptor : String) : LongestName descriptor (name descriptor) := by
  obtain ⟨cutName, isCut, longest⟩ := cut_eq_ok descriptor
  cases (cut_eq_name descriptor).symm.trans isCut
  exact longest

/-! ## Gamepads among the devices -/

/-- A record goes in front of the gamepads behind it, without those of its own id. -/
theorem foldl_firstOfEachId (kept devices : List InputDevice) :
    devices.foldl
        (fun kept device => if kept.any (·.id == device.id) then kept else kept ++ [device]) kept =
      kept ++ (firstOfEachId devices).filter fun device => !kept.any (·.id == device.id) := by
  induction devices generalizing kept with
  | nil => simp [firstOfEachId]
  | cons device rest inductionHypothesis =>
      have own : firstOfEachId (device :: rest) =
          device :: (firstOfEachId rest).filter fun other => !(device.id == other.id) := by
        simpa [firstOfEachId] using inductionHypothesis [device]
      rw [List.foldl_cons, inductionHypothesis, own]
      cases found : kept.any (·.id == device.id) with
      | true =>
          rw [if_pos rfl, List.filter_cons_of_neg (by simp [found]), List.filter_filter]
          congr 1
          refine List.filter_congr fun other _ => ?_
          by_cases same : device.id = other.id
          · simp [← same, found]
          · simp [same]
      | false =>
          rw [if_neg nofun, List.filter_cons_of_pos (by simp [found]), List.filter_filter,
            List.append_assoc]
          simp [Bool.and_comm]

theorem among_nil : among [] = [] := rfl

theorem among_cons (device : InputDevice) (rest : List InputDevice) :
    among (device :: rest) =
      if device.sources.isGamepadLike then
        device :: (among rest).filter (device.id != ·.id)
      else among rest := by
  unfold among
  rw [List.filter_cons]
  split
  · exact (foldl_firstOfEachId [device] _).trans (by simp [bne])
  · rfl

/-- A record of the gamepad with an id. -/
def isPad (id : Int32) (device : InputDevice) : Bool :=
  device.sources.isGamepadLike && device.id == id

/-- Some gamepads are all those among some devices, each id once, with its first record, and in the
order of these. -/
structure FirstRecords (devices pads : List InputDevice) : Prop where
  distinct : (pads.map (·.id)).Nodup
  complete : ∀ id, id ∈ pads.map (·.id) ↔ ∃ device ∈ devices, isPad id device = true
  first : ∀ pad ∈ pads, devices.find? (isPad pad.id) = some pad
  inOrder : pads.Pairwise fun earlier later =>
    devices.findIdx (isPad earlier.id) < devices.findIdx (isPad later.id)

theorem FirstRecords.cons_other {pads : List InputDevice} (records : FirstRecords rest pads)
    (other : device.sources.isGamepadLike = false) : FirstRecords (device :: rest) pads := by
  have noPad (id : Int32) : isPad id device = false := by simp [isPad, other]
  refine ⟨records.distinct, fun id => ?_, fun pad member => ?_, ?_⟩
  · simp [records.complete id, noPad]
  · rw [List.find?_cons_of_neg (by simp [noPad])]
    exact records.first pad member
  · refine records.inOrder.imp fun before => ?_
    simpa [List.findIdx_cons, noPad] using before

theorem FirstRecords.cons_pad {pads : List InputDevice} (records : FirstRecords rest pads)
    (counts : device.sources.isGamepadLike = true) :
    FirstRecords (device :: rest) (device :: pads.filter (device.id != ·.id)) := by
  have isFirst : isPad device.id device = true := by simp [isPad, counts]
  have isOther {pad : InputDevice} (member : pad ∈ pads.filter (device.id != ·.id)) :
      isPad pad.id device = false := by
    have different := (List.mem_filter.mp member).2
    simpa [isPad, counts] using different
  refine ⟨?_, fun id => ?_, fun pad member => ?_, ?_⟩
  · rw [List.map_cons, List.nodup_cons]
    refine ⟨?_, records.distinct.sublist (List.filter_sublist.map _)⟩
    intro repeated
    obtain ⟨pad, member, sameId⟩ := List.mem_map.mp repeated
    have different := isOther member
    rw [sameId] at different
    cases isFirst.symm.trans different
  · by_cases same : device.id = id
    · simp [← same, isFirst]
    · have notFirst : isPad id device = false := by simp [isPad, same]
      have kept : id ∈ (pads.filter (device.id != ·.id)).map (·.id) ↔ id ∈ pads.map (·.id) := by
        simp only [List.mem_map, List.mem_filter]
        constructor
        · rintro ⟨pad, ⟨member, -⟩, rfl⟩
          exact ⟨pad, member, rfl⟩
        · rintro ⟨pad, member, rfl⟩
          exact ⟨pad, ⟨member, by simpa using same⟩, rfl⟩
      rw [List.map_cons, List.mem_cons, kept, records.complete id]
      simp [notFirst, Ne.symm same]
  · rcases List.mem_cons.mp member with rfl | behind
    · exact List.find?_cons_of_pos isFirst
    · rw [List.find?_cons_of_neg (by simp [isOther behind])]
      exact records.first pad (List.mem_of_mem_filter behind)
  · refine List.pairwise_cons.mpr ⟨fun pad behind => ?_, ?_⟩
    · simp [List.findIdx_cons, isFirst, isOther behind]
    · refine (records.inOrder.filter _).imp_of_mem fun earlier later before => ?_
      simpa [List.findIdx_cons, isOther earlier, isOther later] using before

theorem firstRecords_among (devices : List InputDevice) : FirstRecords devices (among devices) := by
  induction devices with
  | nil => exact ⟨.nil, by simp [among_nil], nofun, .nil⟩
  | cons device rest inductionHypothesis =>
      rw [among_cons]
      cases counts : device.sources.isGamepadLike with
      | true => exact inductionHypothesis.cons_pad counts
      | false => exact inductionHypothesis.cons_other counts

/-! ## Enumeration -/

/-- There are no more gamepads than ids, so their number fits in the call. -/
theorem count_lt (devices : List InputDevice) : count devices < UInt64.size := by
  have injective : Function.Injective fun id : Int32 => id.toBitVec.toFin :=
    fun _ _ same => Int32.toBitVec_inj.mp (BitVec.toFin_inj.mp same)
  have few := ((firstRecords_among devices).distinct.map injective).length_le_card
  rw [List.length_map, List.length_map, Fintype.card_fin] at few
  have size : UInt64.size = 18446744073709551616 := rfl
  unfold count
  omega

theorem among_eq_nil_iff (devices : List InputDevice) :
    among devices = [] ↔ ∀ device ∈ devices, device.sources.isGamepadLike = false := by
  have complete := (firstRecords_among devices).complete
  constructor
  · intro none device member
    rw [none] at complete
    by_contra counts
    have isPad : isPad device.id device = true := by simpa [isPad] using counts
    exact List.not_mem_nil ((complete device.id).mpr ⟨device, member, isPad⟩)
  · intro noPad
    rw [List.eq_nil_iff_forall_not_mem]
    intro pad member
    obtain ⟨device, isDevice, counts⟩ :=
      (complete pad.id).mp (List.mem_map.mpr ⟨pad, member, rfl⟩)
    simp [isPad, noPad device isDevice] at counts

/-- Nothing is reported where no device is like a gamepad. Otherwise the number of the gamepads is
reported, and then each of them with its index: each id of such a device once, in the order in which
these ids first occur, under the name that is cut from the descriptor of its first record. Every cut
comes through and gives the longest beginning of the descriptor that takes at most 255 bytes. -/
theorem enumeration_reports_each_gamepad_once (devices : List InputDevice) :
    ((∀ device ∈ devices, device.sources.isGamepadLike = false) →
      enumerate devices = [] ∧ count devices = 0) ∧
    ((∃ device ∈ devices, device.sources.isGamepadLike = true) →
      ∃ (number : UInt64) (data : List Call) (pads : List InputDevice),
        enumerate devices = .gamepadCount number :: data ∧ number.toNat = count devices ∧
        data.length = count devices ∧ pads.length = count devices ∧ FirstRecords devices pads ∧
        ∀ index pad, pads[index]? = some pad → ∃ place : UInt64, place.toNat = index ∧
          data[index]? = some (.gamepadData place pad.id (name pad.descriptor))) ∧
    ∀ descriptor, cut descriptor = .ok (name descriptor) ∧
      LongestName descriptor (name descriptor) := by
  refine ⟨fun noPad => ?_, fun ⟨device, member, counts⟩ => ?_,
    fun descriptor => ⟨cut_eq_name descriptor, longest_name descriptor⟩⟩
  · have nothing := (among_eq_nil_iff devices).mpr noPad
    unfold enumerate count
    rw [nothing]
    exact ⟨rfl, rfl⟩
  · have somePad : among devices ≠ [] := by
      intro nothing
      cases counts.symm.trans ((among_eq_nil_iff devices).mp nothing device member)
    have fitting {place : Nat} (within : place ≤ count devices) :
        (UInt64.ofNat place).toNat = place := by
      rw [UInt64.toNat_ofNat']
      exact Nat.mod_eq_of_lt (Nat.lt_of_le_of_lt within (count_lt devices))
    refine ⟨UInt64.ofNat (count devices), (among devices).zipIdx.map describe, among devices, ?_,
      fitting (Nat.le_refl _), by simp [count], rfl, firstRecords_among devices,
      fun index pad found => ⟨UInt64.ofNat index, fitting ?_, ?_⟩⟩
    · unfold enumerate
      split
      · next nothing => exact absurd nothing somePad
      · rfl
    · obtain ⟨inside, -⟩ := List.getElem?_eq_some_iff.mp found
      exact Nat.le_of_lt inside
    · rw [List.getElem?_map, List.getElem?_zipIdx, found]
      simp [describe]

/-- Two records of one gamepad, a mouse, and another gamepad. -/
def mixedDevices : List InputDevice :=
  [⟨3, ⟨InputSource.gamepad ||| InputSource.joystick⟩, "pad-a"⟩, ⟨4, ⟨InputSource.mouse⟩, "mouse"⟩,
    ⟨3, ⟨InputSource.gamepad⟩, "pad-b"⟩,
    ⟨7, ⟨InputSource.joystick⟩, "pad-c"⟩]

theorem enumeration_of_mixedDevices :
    (∃ device ∈ mixedDevices, device.sources.isGamepadLike = true) ∧
    ∃ (number : UInt64) (data : List Call) (pads : List InputDevice),
      enumerate mixedDevices = .gamepadCount number :: data ∧ number.toNat = 2 ∧
      data.length = 2 ∧ FirstRecords mixedDevices pads := by
  have somePad : ∃ device ∈ mixedDevices, device.sources.isGamepadLike = true :=
    ⟨_, List.mem_cons_self, by decide⟩
  have total : count mixedDevices = 2 := by decide
  obtain ⟨-, reported, -⟩ := enumeration_reports_each_gamepad_once mixedDevices
  obtain ⟨number, data, pads, enumerated, isNumber, dataLength, -, records, -⟩ := reported somePad
  exact ⟨somePad, number, data, pads, enumerated, isNumber.trans total, dataLength.trans total,
    records⟩

end Gamepads

end WindowRelay
