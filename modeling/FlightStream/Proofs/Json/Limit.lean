import FlightStream.Aircraft.Record
import FlightStream.Json.Bytes
import FlightStream.Number.Writing
import FlightStream.Proofs.Computation
import FlightStream.Proofs.Keyed

/-!
Whole numbers are read and written up to the same number of digits. A value that was read holds
none that is too long to be written, however deep inside, `writable_readAll`. So a message about
what was read is put together without fail, as is the label of a raw record,
`Record.writtenLabel_eq`.
-/

namespace FlightStream

/-! ## Digits -/

namespace Reading

/-- Digits are worth less than the power of ten after them. -/
theorem value_lt {ds : List Nat} (digits : ∀ d ∈ ds, d < 10) :
    value ds < Nat.pow 10 ds.length := by
  induction ds using List.reverseRecOn with
  | nil => exact Nat.one_pos
  | append_singleton ds d ih =>
    have before : value ds < Nat.pow 10 ds.length :=
      ih fun e member => digits e (List.mem_append_left _ member)
    have last : d < 10 := digits d (by simp)
    calc value (ds ++ [d]) = 10 * value ds + d := by simp [value]
      _ < Nat.pow 10 ds.length * 10 := by omega
      _ = Nat.pow 10 (ds ++ [d]).length := by rw [List.length_append]; rfl

/-- A whole number of no more digits than are read is short enough to be written. -/
theorem WholeText.fits_toInt {x : WholeText} (digits : ∀ d ∈ x.digits, d < 10)
    (short : x.digits.length ≤ digitLimit) : Writing.fits x.toInt = true := by
  have size : x.toInt.natAbs = value x.digits := by
    unfold WholeText.toInt
    cases x.negative <;> simp
  rw [Writing.fits_iff, size]
  exact Writing.lt_bound short (value_lt digits)

end Reading

namespace Json

/-! ## What can be written -/

mutual

/-- Whether no whole number in a value is too long to be written. -/
def writable : Json → Bool
  | number (.int i) => Writing.fits i
  | array items => writableItems items
  | object fields => writableFields fields
  | _ => true

/-- Whether no whole number in the items of an array is too long to be written. -/
def writableItems : List Json → Bool
  | [] => true
  | item :: rest => writable item && writableItems rest

/-- Whether no whole number in the fields of an object is too long to be written. -/
def writableFields : List (FieldName × Json) → Bool
  | [] => true
  | (_, value) :: rest => writable value && writableFields rest

end

/-- What a value is written as, unless something in it is too long. -/
def written (text : Json → String) (value : Json) : Except Fault String :=
  if value.writable then .ok (text value) else .error .writeLimit

theorem writableItems_iff {items : List Json} :
    writableItems items = true ↔ ∀ item ∈ items, item.writable = true := by
  induction items with
  | nil => simp [writableItems]
  | cons item rest ih => simp [writableItems, ih]

theorem writableFields_iff {fields : List (FieldName × Json)} :
    writableFields fields = true ↔ ∀ field ∈ fields, field.2.writable = true := by
  induction fields with
  | nil => simp [writableFields]
  | cons field rest ih => simp [writableFields, ih]

/-- What is found under a name of an object can be written if the object can. -/
theorem writable_of_find? {value found : Json} {fields : Keyed String Json} {name : String}
    (writes : value.writable = true) (object : value.fields? = some fields)
    (under : fields.find? name = some found) : found.writable = true := by
  cases value with
  | object all =>
    cases object
    obtain ⟨⟨plain, own⟩, member, named⟩ :=
      List.mem_filterMap.mp (Keyed.mem_of_find? under)
    cases plain <;> cases named
    exact writableFields_iff.mp writes _ member
  | _ => cases object

/-! ## Words and numbers -/

theorem digit?_lt {n d : Nat} (digit : digit? n = some d) : d < 10 := by
  unfold digit? zero at digit
  split at digit
  · cases digit
    omega
  · cases digit

theorem lt_of_mem_digitsOf {codes : List Nat} {d : Nat} (member : d ∈ (digitsOf codes).1) :
    d < 10 := by
  obtain ⟨n, -, digit⟩ := List.mem_filterMap.mp member
  exact digit?_lt digit

theorem lt_of_mem_wholeDigits {codes rest ds : List Nat} {d : Nat}
    (found : wholeDigits codes = some (ds, rest)) (member : d ∈ ds) : d < 10 := by
  unfold wholeDigits at found
  split at found
  · cases found
    simp_all
  · split at found
    · cases found
    · cases found
      exact lt_of_mem_digitsOf member

/-- A number that was read can be written. -/
theorem writable_readUnsigned {negative : Bool} {codes rest : List Nat} {n : Number}
    (reads : readUnsigned negative codes = .ok (n, rest)) : (number n).writable = true := by
  unfold readUnsigned at reads
  cases whole : wholeDigits codes with
  | none => simp [whole] at reads
  | some found =>
    obtain ⟨before, left⟩ := found
    cases decimals : fraction left with
    | none =>
      cases powers : powerOfTen left with
      | none =>
        simp only [whole, decimals, powers, if_true] at reads
        split at reads
        · cases reads
        · rename_i short
          cases reads
          exact Reading.WholeText.fits_toInt (fun _ => lt_of_mem_wholeDigits whole)
            (Nat.not_lt.mp short)
      | some power =>
        simp only [whole, decimals, powers, Bool.false_eq_true, if_false] at reads
        cases reads
        rfl
    | some digits =>
      cases powers : powerOfTen digits.2 <;>
        simp only [whole, decimals, powers, Bool.false_eq_true, if_false] at reads <;>
        cases reads <;> rfl

theorem writable_of_mem_words : ∀ word ∈ words, word.2.writable = true := by
  simp [words, writable, Number.infinity, Number.negInfinity]

theorem writable_word? {codes rest : List Nat} {value : Json}
    (found : word? codes = some (value, rest)) : value.writable = true := by
  obtain ⟨word, listed, same⟩ := Option.map_eq_some_iff.mp found
  cases same
  exact writable_of_mem_words word (List.mem_of_find?_eq_some listed)

/-- A word or number that was read can be written. -/
theorem writable_readAtom {codes rest : List Nat} {value : Json}
    (reads : readAtom codes = .ok (value, rest)) : value.writable = true := by
  unfold readAtom at reads
  split at reads
  · rename_i found
    cases reads
    exact writable_word? found
  · split at reads <;>
      obtain ⟨⟨n, left⟩, made, same⟩ := map_eq_ok_iff.mp reads <;>
      cases same <;>
      exact writable_readUnsigned made

theorem writable_ofCodes (codes : List Nat) : (ofCodes codes).writable = true := by
  unfold ofCodes
  split <;> rfl

/-! ## Values that hold others -/

/-- With so much fuel, all that is read can be written. -/
structure ReadsWritable (fuel : Nat) : Prop where
  value : ∀ {levels codes value rest}, readValue levels fuel codes = .ok (value, rest) →
    value.writable = true
  items : ∀ {levels codes items rest}, readItems levels fuel codes = .ok (items, rest) →
    writableItems items = true
  fields : ∀ {levels codes fields rest}, readFields levels fuel codes = .ok (fields, rest) →
    writableFields fields = true

variable {fuel levels : Nat} {codes rest : List Nat}

theorem writableFields_ofList {fields : List (FieldName × Json)}
    (writes : writableFields fields = true) : writableFields (Keyed.ofList fields) = true :=
  writableFields_iff.mpr fun field member =>
    writableFields_iff.mp writes field (Keyed.mem_ofList_iff.mp member).mem

theorem ReadsWritable.value_succ (inner : ReadsWritable fuel) {value : Json}
    (reads : readValue levels (fuel + 1) codes = .ok (value, rest)) : value.writable = true := by
  unfold readValue at reads
  split at reads
  · obtain ⟨made, -, same⟩ := map_eq_ok_iff.mp reads
    cases same
    exact writable_ofCodes made.1
  · obtain ⟨levels, -, reads⟩ := bind_eq_ok_iff.mp reads
    split at reads
    · cases reads
      rfl
    · obtain ⟨made, items, same⟩ := map_eq_ok_iff.mp reads
      cases same
      exact inner.items items
  · obtain ⟨levels, -, reads⟩ := bind_eq_ok_iff.mp reads
    split at reads
    · cases reads
      rfl
    · obtain ⟨made, fields, same⟩ := map_eq_ok_iff.mp reads
      cases same
      exact writableFields_ofList (inner.fields fields)
  · exact writable_readAtom reads

theorem ReadsWritable.items_succ (inner : ReadsWritable fuel) {items : List Json}
    (reads : readItems levels (fuel + 1) codes = .ok (items, rest)) :
    writableItems items = true := by
  unfold readItems at reads
  obtain ⟨⟨item, left⟩, own, reads⟩ := bind_eq_ok_iff.mp reads
  have first := inner.value own
  dsimp only at reads
  split at reads
  · cases reads
    simp [writableItems, first]
  · obtain ⟨⟨later, left⟩, others, reads⟩ := bind_eq_ok_iff.mp reads
    cases reads
    simp [writableItems, first, inner.items others]
  · cases reads

theorem ReadsWritable.fields_succ (inner : ReadsWritable fuel)
    {fields : List (FieldName × Json)}
    (reads : readFields levels (fuel + 1) codes = .ok (fields, rest)) :
    writableFields fields = true := by
  unfold readFields at reads
  split at reads
  · obtain ⟨⟨name, left⟩, -, reads⟩ := bind_eq_ok_iff.mp reads
    dsimp only at reads
    split at reads
    · obtain ⟨⟨value, left⟩, own, reads⟩ := bind_eq_ok_iff.mp reads
      have first := inner.value own
      dsimp only at reads
      split at reads
      · cases reads
        simp [writableFields, first]
      · obtain ⟨⟨later, left⟩, others, reads⟩ := bind_eq_ok_iff.mp reads
        cases reads
        simp [writableFields, first, inner.fields others]
      · cases reads
    · cases reads
  · cases reads

/-- A reader that reads values inside others hands on what it read of them, so what it reads can
be written if what was read with less fuel can. -/
theorem readsWritable : (fuel : Nat) → ReadsWritable fuel
  | 0 => by constructor <;> simp [readValue, readItems, readFields]
  | fuel + 1 =>
    have inner := readsWritable fuel
    ⟨inner.value_succ, inner.items_succ, inner.fields_succ⟩

/-! ## Whole texts -/

variable {value : Json}

/-- A value that was read can be written. -/
theorem writable_readAll (reads : readAll codes = .ok value) : value.writable = true := by
  unfold readAll at reads
  split at reads
  · cases reads
  · rename_i made
    split at reads
    · cases reads
      exact (readsWritable _).value made
    · cases reads

theorem writable_read {cs : List Char} (reads : read cs = .ok value) : value.writable = true :=
  writable_readAll reads

theorem writable_readBytes {bytes : List UInt8} (reads : readBytes bytes = .ok value) :
    value.writable = true := by
  unfold readBytes at reads
  cases decoded : decode? (detect bytes).1 (detect bytes).2 with
  | none => simp [decoded] at reads
  | some codes =>
    simp only [decoded] at reads
    exact writable_readAll reads

end Json

/-! ## Labels -/

namespace Record

/-- What the label of a raw record is written as, unless something in its identity is too long. -/
def writtenLabel (raw : Json) : Except Fault String :=
  match identity? raw with
  | some id => id.written Json.bare
  | none => .ok "?"

/-- The label of a record that can be written is put together without fail. -/
theorem writtenLabel_eq {raw : Json} (writes : raw.writable = true) :
    writtenLabel raw = .ok (label raw) := by
  unfold writtenLabel label
  cases own : identity? raw with
  | none => rfl
  | some id =>
    obtain ⟨fields, object, under⟩ := Option.bind_eq_some_iff.mp own
    simp [Json.written, Json.writable_of_find? writes object under]

/-- An identity with one digit more than is read has no text. -/
example : writtenLabel (.object [(.plain "Id", .number (.int (10 ^ 4300)))]) =
    .error .writeLimit := by
  decide +kernel

end Record

end FlightStream
