import Mathlib
import FlightStream.Graphite.Frame
import FlightStream.Proofs.Text.Utf8

/-!
A frame is read as the metric that it was written from, and nothing shorter or longer is read at
all. Each instruction of a payload takes the machine from one state to the next whatever follows
it (`Does`); put together, the instructions of a payload leave its metric (`load_payload`). The
length in front ends a frame, so that frames one after the other can be cut apart (`cut`).
-/

namespace FlightStream.Frame

/-! ## Numbers in bytes -/

@[simp] theorem length_lowBytes (count n : Nat) : (lowBytes count n).length = count := by
  induction count generalizing n with
  | zero => rfl
  | succ count ih => rw [lowBytes, List.length_cons, ih]

@[simp] theorem length_highBytes (count n : Nat) : (highBytes count n).length = count := by
  rw [highBytes, List.length_reverse, length_lowBytes]

/-- Low bytes are read as the number modulo what they can hold. -/
theorem natOfBytes_lowBytes (count n : Nat) : natOfBytes (lowBytes count n) = n % 256 ^ count := by
  induction count generalizing n with
  | zero => rw [Nat.pow_zero, Nat.mod_one]; rfl
  | succ count ih =>
    have byte : (UInt8.ofNat (n % 256)).toNat = n % 256 := by rw [UInt8.toNat_ofNat']; omega
    rw [lowBytes, natOfBytes, ih, byte, Nat.pow_succ', Nat.mod_mul]

/-- So are high bytes, the other way round. -/
theorem natOfBytes_highBytes (count n : Nat) :
    natOfBytes (highBytes count n).reverse = n % 256 ^ count := by
  rw [highBytes, List.reverse_reverse, natOfBytes_lowBytes]

/-- Whether a whole number has a two's complement in so many bytes. -/
def Fits (count : Nat) (i : Int) : Prop :=
  -(Nat.pow 256 count : Int) ≤ 2 * i ∧ 2 * i < (Nat.pow 256 count : Int)

/-- A two's complement is read as its whole number. -/
theorem intOfBytes_lowBytes {count : Nat} {i : Int} (fits : Fits count i) :
    intOfBytes (lowBytes count (i % Nat.pow 256 count).toNat) = i := by
  have positive : 0 < Nat.pow 256 count := Nat.pow_pos (by omega)
  have read := natOfBytes_lowBytes count (i % Nat.pow 256 count).toNat
  change _ = _ % Nat.pow 256 count at read
  rw [intOfBytes, read, length_lowBytes]
  unfold Fits at fits
  generalize Nat.pow 256 count = room at fits positive
  obtain ⟨least, most⟩ := fits
  rcases lt_or_ge i 0 with below | above
  · have wrapped : i % room = i + room := by
      rw [← Int.add_emod_right, Int.emod_eq_of_lt (by omega) (by omega)]
    have number : (i % room).toNat % room = (i + room).toNat := by
      rw [wrapped, Nat.mod_eq_of_lt (by omega)]
    rw [number, if_neg (by omega)]
    omega
  · have number : (i % room).toNat % room = i.toNat := by
      rw [Int.emod_eq_of_lt above (by omega), Nat.mod_eq_of_lt (by omega)]
    rw [number, if_pos (by omega)]
    omega

theorem signedSize_pos (i : Int) : 0 < signedSize i := by
  simp only [signedSize]
  generalize (if 0 ≤ i then i.toNat else (-i - 1).toNat) = m
  split <;> omega

/-- The fewest bytes are enough. -/
theorem fits_signedSize (i : Int) : Fits (signedSize i) i := by
  generalize magnitude : (if 0 ≤ i then i.toNat else (-i - 1).toNat) = m
  have small : 2 * m < 2 ^ (8 * signedSize i) := by
    have bits : m < 2 ^ (m.log2 + 1) := Nat.lt_log2_self
    have room : m.log2 + 2 ≤ 8 * signedSize i := by
      simp only [signedSize, magnitude]
      split
      · rename_i zero
        subst zero
        decide
      · omega
    calc 2 * m < 2 ^ (m.log2 + 1 + 1) := by rw [Nat.pow_succ]; omega
      _ ≤ 2 ^ (8 * signedSize i) := Nat.pow_le_pow_right (by omega) room
  have bytes : 2 ^ (8 * signedSize i) = Nat.pow 256 (signedSize i) := Nat.pow_mul 2 8 _
  have even : 2 ∣ 2 ^ (8 * signedSize i) :=
    dvd_pow_self 2 (Nat.mul_ne_zero (by omega) (signedSize_pos i).ne')
  rw [bytes] at small even
  unfold Fits
  generalize Nat.pow 256 (signedSize i) = room at small even
  split at magnitude <;> omega

@[simp] theorem length_signedBytes (i : Int) : (signedBytes i).length = signedSize i :=
  length_lowBytes _ _

/-- The fewest bytes of a whole number are read as it. -/
theorem intOfBytes_signedBytes (i : Int) : intOfBytes (signedBytes i) = i :=
  intOfBytes_lowBytes (fits_signedSize i)

/-! ## Instructions -/

/-- Running the bytes takes the machine from one state to another, whatever follows them and in
no more instructions than there are bytes. -/
def Does (bytes : List UInt8) (m after : Machine) : Prop :=
  ∃ count ≤ bytes.length, ∀ fuel rest,
    run (fuel + count) m (bytes ++ rest) = run fuel after rest

/-- One after the other. -/
theorem Does.append {first second : List UInt8} {m between after : Machine}
    (doesFirst : Does first m between) (doesSecond : Does second between after) :
    Does (first ++ second) m after := by
  obtain ⟨a, few, runFirst⟩ := doesFirst
  obtain ⟨b, few', runSecond⟩ := doesSecond
  refine ⟨b + a, by rw [List.length_append]; omega, fun fuel rest => ?_⟩
  rw [List.append_assoc, ← Nat.add_assoc, runFirst, runSecond]

/-- A single instruction with what belongs to it. -/
theorem does_instruction {code : UInt8} {argument : List UInt8} {m after : Machine}
    (going : code.toNat ≠ 0x2e)
    (steps : ∀ rest, step m code.toNat (argument ++ rest) = .ok (after, rest)) :
    Does (code :: argument) m after := by
  refine ⟨1, Nat.le_add_left 1 _, fun fuel rest => ?_⟩
  rw [List.cons_append, run, if_neg going, steps]
  rfl

/-- What is there can be taken. -/
theorem take_append {count : Nat} {bytes : List UInt8} (long : bytes.length = count)
    (rest : List UInt8) : take count (bytes ++ rest) = .ok (bytes, rest) := by
  subst long
  rw [take, if_pos (by rw [List.length_append]; omega), List.take_left, List.drop_left]

variable {m : Machine}

/-- A value of a fixed number of bytes. -/
theorem does_value {code : UInt8} {count : Nat} {argument : List UInt8} {f : List UInt8 → Datum}
    {d : Datum} (going : code.toNat ≠ 0x2e) (long : argument.length = count)
    (steps : ∀ bytes, step m code.toNat bytes = do
      let (argument, rest) ← take count bytes
      return (m.push (f argument), rest))
    (value : f argument = d) : Does (code :: argument) m (m.push d) := by
  refine does_instruction going fun rest => ?_
  rw [steps, take_append long, ← value]
  rfl

/-- A whole number in one byte. -/
theorem does_one {i : Int} (least : 0 ≤ i) (most : i < 256) :
    Does (0x4b :: lowBytes 1 i.toNat) m (m.push (.int i)) := by
  have number : (natOfBytes (lowBytes 1 i.toNat) : Int) = i := by
    rw [natOfBytes_lowBytes]; omega
  exact does_value (f := fun bytes => .int (natOfBytes bytes)) (by decide) (length_lowBytes 1 _)
    (fun _ => rfl) (congrArg Datum.int number)

/-- A whole number in two bytes. -/
theorem does_two {i : Int} (least : 0 ≤ i) (most : i < 65536) :
    Does (0x4d :: lowBytes 2 i.toNat) m (m.push (.int i)) := by
  have number : (natOfBytes (lowBytes 2 i.toNat) : Int) = i := by
    rw [natOfBytes_lowBytes]; omega
  exact does_value (f := fun bytes => .int (natOfBytes bytes)) (by decide) (length_lowBytes 2 _)
    (fun _ => rfl) (congrArg Datum.int number)

/-- A whole number in four bytes, one bit of which is its sign. -/
theorem does_four {i : Int} (word : isWord32 i = true) :
    Does (0x4a :: lowBytes 4 (i % 0x100000000).toNat) m (m.push (.int i)) := by
  have number : intOfBytes (lowBytes 4 (i % 0x100000000).toNat) = i := by
    apply intOfBytes_lowBytes
    have range := of_decide_eq_true word
    unfold Fits
    norm_num
    omega
  exact does_value (f := fun bytes => .int (intOfBytes bytes)) (by decide) (length_lowBytes 4 _)
    (fun _ => rfl) (congrArg Datum.int number)

/-- A whole number in its fewest bytes, once their count is read. -/
theorem readLong_signedBytes (i : Int) (rest : List UInt8) :
    readLong m (signedSize i) (signedBytes i ++ rest) = .ok (m.push (.int i), rest) := by
  rw [readLong, take_append (length_signedBytes i)]
  change Except.ok _ = _
  rw [intOfBytes_signedBytes]

/-- A whole number in its fewest bytes, counted by one. -/
theorem does_counted {i : Int} (short : signedSize i < 256) :
    Does (0x8a :: (lowBytes 1 (signedSize i) ++ signedBytes i)) m (m.push (.int i)) := by
  refine does_instruction (by decide) fun rest => ?_
  have count : natOfBytes (lowBytes 1 (signedSize i)) = signedSize i := by
    rw [natOfBytes_lowBytes]; omega
  change step m 0x8a _ = _
  rw [step, List.append_assoc, take_append (length_lowBytes 1 _)]
  change readLong m (natOfBytes (lowBytes 1 (signedSize i))) _ = _
  rw [count, readLong_signedBytes]

/-- A whole number in its fewest bytes, counted by four with a sign. -/
theorem does_long {i : Int} (short : signedSize i < 2 ^ 31) :
    Does (0x8b :: (lowBytes 4 (signedSize i) ++ signedBytes i)) m (m.push (.int i)) := by
  refine does_instruction (by decide) fun rest => ?_
  have count : natOfBytes (lowBytes 4 (signedSize i)) = signedSize i := by
    rw [natOfBytes_lowBytes]; omega
  have sign : ¬intOfBytes (lowBytes 4 (signedSize i)) < 0 := by
    rw [intOfBytes, count, length_lowBytes, if_pos (by norm_num; omega)]
    omega
  change step m 0x8b _ = _
  rw [step, List.append_assoc, take_append (length_lowBytes 4 _)]
  change (if intOfBytes (lowBytes 4 (signedSize i)) < 0 then _ else
    readLong m (natOfBytes (lowBytes 4 (signedSize i))) _) = _
  rw [if_neg sign, count, readLong_signedBytes]

/-- A whole number in the form that is written for it. -/
theorem does_writeInt {i : Int} (short : (writeInt i).length < 2 ^ 31) :
    Does (writeInt i) m (m.push (.int i)) := by
  revert short
  unfold writeInt
  by_cases one : 0 ≤ i ∧ i < 256
  · rw [if_pos one]
    exact fun _ => does_one one.1 one.2
  by_cases two : 0 ≤ i ∧ i < 65536
  · rw [if_neg one, if_pos two]
    exact fun _ => does_two two.1 two.2
  by_cases four : isWord32 i = true
  · rw [if_neg one, if_neg two, if_pos four]
    exact fun _ => does_four four
  rw [if_neg one, if_neg two, if_neg four]
  by_cases counted : signedSize i < 256
  · dsimp only
    rw [if_pos counted]
    exact fun _ => does_counted counted
  · dsimp only
    rw [if_neg counted]
    intro short
    rw [List.cons_append, List.length_cons, List.length_append, length_signedBytes] at short
    exact does_long (by omega)

/-- A text, counted by four bytes. -/
theorem does_writeText {s : String} (short : (writeText s).length < 2 ^ 32) :
    Does (writeText s) m (m.push (.text s)) := by
  simp only [writeText, List.cons_append, List.length_cons, List.length_append] at short ⊢
  refine does_instruction (by decide) fun rest => ?_
  have count : natOfBytes (lowBytes 4 (Utf8.encode s).length) = (Utf8.encode s).length := by
    rw [natOfBytes_lowBytes]; omega
  have text : readText (Utf8.encode s) = .ok s := by
    rw [readText, Utf8.decode_encode]
    exact congrArg Except.ok (Utf8.textOfCodes_toNat s)
  change step m 0x58 _ = _
  rw [step, List.append_assoc, take_append (length_lowBytes 4 _)]
  change (take (natOfBytes (lowBytes 4 (Utf8.encode s).length)) _ >>= _) = _
  rw [count, take_append rfl]
  change (readText (Utf8.encode s) >>= _) = _
  rw [text]
  rfl

/-- A float by its word. -/
theorem does_writeFloat (word : Nat) :
    Does (writeFloat word) m (m.push (.float (Float.ofBits (UInt64.ofNat word)))) := by
  have bits : UInt64.ofNat (natOfBytes (highBytes 8 word).reverse) = UInt64.ofNat word := by
    rw [natOfBytes_highBytes, ← UInt64.toNat_inj, UInt64.toNat_ofNat', UInt64.toNat_ofNat']
    exact Nat.mod_mod_of_dvd word (by norm_num)
  exact does_value
    (f := fun bytes => .float (Float.ofBits (UInt64.ofNat (natOfBytes bytes.reverse))))
    (by decide) (length_highBytes 8 _) (fun _ => rfl)
    (congrArg (Datum.float ∘ Float.ofBits) bits)

/-- Giving a value on the stack a number changes nothing. -/
theorem does_number (slot : UInt8) (d : Datum) (stack : List Datum) :
    Does [0x71, slot] ⟨d :: stack, []⟩ ⟨d :: stack, []⟩ :=
  does_instruction (by decide) fun rest => by
    have one : [slot].length = 1 := rfl
    change step _ 0x71 ([slot] ++ rest) = _
    rw [step, take_append one]
    rfl

/-- The two values on top become a pair. -/
theorem does_pair (first second : Datum) (stack : List Datum) :
    Does [0x86] ⟨second :: first :: stack, []⟩ ⟨.tuple [first, second] :: stack, []⟩ :=
  does_instruction (by decide) fun _ => by
    change step _ 0x86 _ = _
    rw [step, Machine.makeTuple, Machine.require]
    rfl

/-- The value on top goes into the empty list below it. -/
theorem does_append (d : Datum) : Does [0x61] ⟨[d, .list []], []⟩ ⟨[.list [d]], []⟩ :=
  does_instruction (by decide) fun _ => rfl

/-- What comes first leaves an empty list. -/
theorem does_start : Does [0x80, 0x02, 0x5d, 0x71, 0x00] .initial ⟨[.list []], []⟩ := by
  have version : Does [0x80, 0x02] .initial .initial := does_instruction (by decide) fun _ => rfl
  have list : Does [0x5d] .initial ⟨[.list []], []⟩ := does_instruction (by decide) fun _ => rfl
  exact (version.append list).append (does_number 0x00 _ _)

/-- What comes last puts the three values into it. -/
theorem does_close (name timestamp value : Datum) :
    Does [0x86, 0x71, 0x02, 0x86, 0x71, 0x03, 0x61] ⟨[value, timestamp, name, .list []], []⟩
      ⟨[.list [.tuple [name, .tuple [timestamp, value]]]], []⟩ := by
  have inner := (does_pair timestamp value [name, .list []]).append (does_number 0x02 _ _)
  have outer := (does_pair name (.tuple [timestamp, value]) [.list []]).append
    (does_number 0x03 _ _)
  exact (inner.append outer).append (does_append _)

/-! ## Frames of metrics -/

/-- A metric whose minus sign beside the value is that of NaN. -/
def Signed (m : Metric) : Prop := m.minusNan = true → m.value.isNaN = true

/-- Only NaN is a number with a minus sign beside its float. -/
theorem isNaN_of_isMinusNan {a : Number} {x : Float} (float : a.toFloat = .ok x)
    (minus : a.isMinusNan = true) : x.isNaN = true := by
  cases a with
  | minusNan =>
    obtain rfl : Binary64.nan = x := Except.ok.inj float
    decide
  | _ => cases minus

/-- The metrics that are made from numbers are signed so. -/
theorem signed_ofNumbers {name : String} {timestamp value : Number} {m : Metric}
    (made : Metric.ofNumbers name timestamp value = .ok m) : Signed m := by
  unfold Metric.ofNumbers at made
  rcases truncated : timestamp.truncate with _ | time
  · rw [truncated] at made
    cases made
  rcases float : value.toFloat with _ | x
  · rw [truncated, float] at made
    cases made
  · rw [truncated, float] at made
    obtain rfl := Except.ok.inj made
    exact isNaN_of_isMinusNan float

/-- The word of a metric's value is read as the value. Only the sign of NaN is not in it. -/
theorem ofBits_word {m : Metric} (signed : Signed m) :
    Float.ofBits (UInt64.ofNat m.word) = m.value := by
  unfold Metric.word
  by_cases minus : m.minusNan = true
  · have value : m.value = Binary64.nan := by
      have nan : m.value = Float.nan := by simpa using signed minus
      rw [nan]
      decide
    rw [if_pos minus, value]
    decide
  · rw [if_neg minus, UInt64.ofNat_toNat, Float.ofBits_toBits]

/-- A metric that goes into a frame. -/
structure Sendable (m : Metric) : Prop where
  signed : Signed m
  short : (payload m).length < 2 ^ 31

/-- A payload leaves a list with the name, the time and the value of its metric. -/
theorem load_payload {m : Metric} (sendable : Sendable m) :
    load (payload m) =
      .ok (.list [.tuple [.text m.name, .tuple [.int m.timestamp, .float m.value]]]) := by
  have short := sendable.short
  simp only [payload, List.length_append] at short
  have name : Does (writeText m.name) ⟨[.list []], []⟩ ⟨[.text m.name, .list []], []⟩ :=
    does_writeText (by omega)
  have timestamp : Does (writeInt m.timestamp) ⟨[.text m.name, .list []], []⟩
      ⟨[.int m.timestamp, .text m.name, .list []], []⟩ := does_writeInt (by omega)
  have value : Does (writeFloat m.word) ⟨[.int m.timestamp, .text m.name, .list []], []⟩
      ⟨[.float m.value, .int m.timestamp, .text m.name, .list []], []⟩ := by
    rw [← ofBits_word sendable.signed]
    exact does_writeFloat m.word
  have named := (does_start.append name).append (does_number 0x01 _ _)
  obtain ⟨count, few, runs⟩ := ((named.append timestamp).append value).append (does_close _ _ _)
  generalize written : [0x80, 0x02, 0x5d, 0x71, 0x00] ++ writeText m.name ++ [0x71, 0x01] ++
    writeInt m.timestamp ++ writeFloat m.word ++ [0x86, 0x71, 0x02, 0x86, 0x71, 0x03, 0x61] = bytes
    at few runs
  have whole : payload m = bytes ++ [0x2e] := by
    rw [← written, payload]
    simp only [List.append_assoc, List.cons_append, List.nil_append]
  obtain ⟨fuel, enough⟩ : ∃ fuel, (payload m).length = fuel + 1 + count :=
    ⟨bytes.length - count, by rw [whole, List.length_append, List.length_singleton]; omega⟩
  rw [load, enough, whole, runs]
  rfl

/-- Without a whole length there is no frame. -/
theorem decode_short {bytes : List UInt8} (short : bytes.length < 4) :
    decode bytes = .error .frameTooShort := by
  rw [decode, if_pos short]
  rfl

/-- With another length than the one in front there is none either. -/
theorem decode_mismatch {bytes : List UInt8} (long : ¬bytes.length < 4)
    (mismatch : (bytes.drop 4).length ≠ natOfBytes (bytes.take 4).reverse) :
    decode bytes =
      .error (.frameLength (natOfBytes (bytes.take 4).reverse) (bytes.drop 4).length) := by
  rw [decode, if_neg long]
  dsimp only
  rw [if_pos mismatch]
  rfl

/-- The length in front of a payload. -/
theorem declared_eq {m : Metric} (sendable : Sendable m) :
    natOfBytes (highBytes 4 (payload m).length).reverse = (payload m).length := by
  have short := sendable.short
  rw [natOfBytes_highBytes]
  omega

theorem length_encode (m : Metric) : (encode m).length = 4 + (payload m).length := by
  simp only [encode, List.length_append, length_highBytes]

/-- A frame is read as the metric that it was written from. -/
theorem decode_encode {m : Metric} (sendable : Sendable m) :
    decode (encode m) = .ok (.ofMetric m) := by
  have header := length_highBytes 4 (payload m).length
  rw [decode, if_neg (by rw [length_encode]; omega)]
  dsimp only [encode]
  rw [List.take_left' header, List.drop_left' header, declared_eq sendable,
    if_neg (fun differ => differ rfl), load_payload sendable]
  rfl

/-- What is read as no frame at all. -/
def Refused (bytes : List UInt8) : Prop :=
  ∃ fault, decode bytes = .error fault ∧ fault.kind = "ValueError"

/-- Bytes of another length than the frame are refused if the length in front is that of the
frame, and also if they end within it. -/
theorem refused_of_length {m : Metric} (sendable : Sendable m) {bytes : List UInt8}
    (header : 4 ≤ bytes.length → bytes.take 4 = highBytes 4 (payload m).length)
    (other : bytes.length ≠ (encode m).length) : Refused bytes := by
  by_cases short : bytes.length < 4
  · exact ⟨_, decode_short short, rfl⟩
  · refine ⟨_, decode_mismatch short ?_, rfl⟩
    rw [header (by omega), declared_eq sendable, List.length_drop]
    rw [length_encode] at other
    omega

/-- A frame that breaks off is refused. -/
theorem refused_of_prefix {m : Metric} (sendable : Sendable m) {bytes : List UInt8}
    (broken : bytes <+: encode m) (proper : bytes ≠ encode m) : Refused bytes := by
  refine refused_of_length sendable (fun long => ?_) fun same =>
    proper (broken.eq_of_length same)
  obtain ⟨rest, whole⟩ := broken
  have front : (encode m).take 4 = highBytes 4 (payload m).length :=
    List.take_left' (length_highBytes 4 _)
  rw [← front, ← whole, List.take_append_of_le_length long]

/-- A frame with more bytes after it is refused. -/
theorem refused_of_more {m : Metric} (sendable : Sendable m) {extra : List UInt8}
    (more : extra ≠ []) : Refused (encode m ++ extra) := by
  refine refused_of_length sendable (fun _ => ?_) ?_
  · rw [encode, List.append_assoc]
    exact List.take_left' (length_highBytes 4 _)
  · rw [List.length_append]
    have := List.length_pos_iff.mpr more
    omega

/-! ## Frames one after the other -/

/-- Bytes cut into frames by the lengths in front of them. -/
def cut (bytes : List UInt8) : Option (List (List UInt8)) :=
  if bytes.isEmpty then some []
  else
    let size := 4 + natOfBytes (bytes.take 4).reverse
    if size ≤ bytes.length then (cut (bytes.drop size)).map (bytes.take size :: ·) else none
termination_by bytes.length
decreasing_by
  rw [List.length_drop]
  omega

/-- Frames one after the other are cut apart. -/
theorem cut_encode {metrics : List Metric} (sendable : ∀ m ∈ metrics, Sendable m) :
    cut (metrics.flatMap encode) = some (metrics.map encode) := by
  induction metrics with
  | nil => rw [List.flatMap_nil, cut]; rfl
  | cons m metrics ih =>
    obtain ⟨first, others⟩ := List.forall_mem_cons.mp sendable
    have size : 4 + natOfBytes ((encode m ++ metrics.flatMap encode).take 4).reverse =
        (encode m).length := by
      rw [encode, List.append_assoc, List.take_left' (length_highBytes 4 _), declared_eq first,
        ← encode, length_encode]
    rw [List.flatMap_cons, cut, if_neg (by rw [encode]; simp [highBytes, lowBytes])]
    dsimp only
    rw [size, if_pos (by rw [List.length_append]; omega), List.take_left, List.drop_left,
      ih others]
    rfl

/-- The frames of metrics are read as the metrics. -/
theorem mapM_decode {metrics : List Metric} (sendable : ∀ m ∈ metrics, Sendable m) :
    (metrics.map encode).mapM decode = .ok (metrics.map .ofMetric) := by
  induction metrics with
  | nil => rfl
  | cons m metrics ih =>
    obtain ⟨first, others⟩ := List.forall_mem_cons.mp sendable
    rw [List.map_cons, List.mapM_cons, decode_encode first, ih others]
    rfl

/-- The frames of any metrics, one after the other, are cut apart by the lengths in front of them
and read as the metrics. Each frame is read as its metric, and neither a part from its front nor
the frame with more bytes after it is read. -/
theorem frames_round_trip {metrics : List Metric} (sendable : ∀ m ∈ metrics, Sendable m) :
    (∀ m ∈ metrics, decode (encode m) = .ok (.ofMetric m) ∧
      (∀ bytes, bytes <+: encode m → bytes ≠ encode m → Refused bytes) ∧
      ∀ extra, extra ≠ [] → Refused (encode m ++ extra)) ∧
    cut (metrics.flatMap encode) = some (metrics.map encode) ∧
    (metrics.map encode).mapM decode = .ok (metrics.map .ofMetric) := by
  refine ⟨fun m mem => ?_, cut_encode sendable, mapM_decode sendable⟩
  have one := sendable m mem
  exact ⟨decode_encode one, fun _ broken proper => refused_of_prefix one broken proper,
    fun _ more => refused_of_more one more⟩

/-- A sign of presence, and a result of NaN with a minus sign long before the epoch. -/
def pair : List Metric :=
  [⟨"London.ASCENDING", 1546300800, 1, false⟩, ⟨"Málaga", -2 ^ 40, Binary64.nan, true⟩]

theorem frames_round_trip_pair :
    (∀ m ∈ pair, Sendable m) ∧
      cut (pair.flatMap encode) = some (pair.map encode) ∧
      (pair.map encode).mapM decode = .ok (pair.map .ofMetric) := by
  have sendable : ∀ m ∈ pair, Sendable m := by
    intro m mem
    simp only [pair, List.mem_cons, List.not_mem_nil, or_false] at mem
    rcases mem with rfl | rfl
    · refine ⟨nofun, ?_⟩
      rw [payload, writeText, Utf8.encode_eq]
      decide
    · refine ⟨fun _ => by decide, ?_⟩
      rw [payload, writeText, Utf8.encode_eq]
      decide
  exact ⟨sendable, (frames_round_trip sendable).2⟩

end FlightStream.Frame
