import IngressConvergence.Timestamp

/-!
# Points in time that are written and read

A number that is padded with zeros is read back as far as it was written: a run of digits ends where it
is as long as it may be, or before a character that is no digit.  From this every part of a point in
time is read back in turn, with what follows it left untouched, and `Timestamp.ofText?_text` puts the
parts together.  A point in time that was read is valid, which is `Timestamp.isValid_of_ofText?`.
-/

namespace IngressConvergence

/-! ## Numbers in digits -/

namespace Text

/-- A run of digits ends here, if it may have a given length at most. -/
def EndsRun
    (longest : Nat)
    (digits rest : List Char) : Prop :=
  digits.length = longest ∨ ∀ next ∈ rest.head?, next.isDigit = false

variable {longest : Nat} {digits rest : List Char}

theorem takeWhile_take_eq_nil
    (count : Nat)
    (noDigit : ∀ next ∈ rest.head?, next.isDigit = false) :
    (rest.take count).takeWhile Char.isDigit = [] := by
  cases count with
  | zero => rfl
  | succ count =>
      cases rest with
      | nil => rfl
      | cons next others => simp [noDigit next rfl]

theorem digitRun_append
    (allDigits : ∀ digit ∈ digits, digit.isDigit = true)
    (fits : digits.length ≤ longest)
    (ends : EndsRun longest digits rest) :
    digitRun longest (digits ++ rest) = (digits, rest) := by
  have run :
      ((digits ++ rest).take longest).takeWhile Char.isDigit = digits := by
    rw [List.take_append, List.take_of_length_le fits, List.takeWhile_append_of_pos allDigits]
    rcases ends with full | noDigit
    · simp [full]
    · rw [takeWhile_take_eq_nil _ noDigit, List.append_nil]
  rw [digitRun, run, List.drop_left]

theorem readNumber?_append
    (notEmpty : digits ≠ [])
    (allDigits : ∀ digit ∈ digits, digit.isDigit = true)
    (fits : digits.length ≤ longest)
    (ends : EndsRun longest digits rest) :
    readNumber? longest (digits ++ rest) = some (numberOf digits, rest) := by
  rw [readNumber?, digitRun_append allDigits fits ends]
  cases digits with
  | nil => exact absurd rfl notEmpty
  | cons digit others => rfl

theorem numberOf_eq_ofDigitChars
    (digits : List Char) :
    numberOf digits = Nat.ofDigitChars 10 digits 0 := by
  simp only [numberOf, Nat.ofDigitChars, digitValue, Nat.mul_comm]

/-- A number that is padded has the value that it had. -/
theorem numberOf_padded
    (width number : Nat) :
    numberOf (padded width number).toList = number := by
  simp [numberOf_eq_ofDigitChars, padded, Nat.ofDigitChars_append]

theorem isDigit_of_mem_padded
    {width number : Nat}
    {digit : Char}
    (member : digit ∈ (padded width number).toList) :
    digit.isDigit = true := by
  simp only [padded, String.toList_ofList, List.mem_append] at member
  rcases member with inPadding | inDigits
  · rw [(List.mem_replicate.mp inPadding).2]
    rfl
  · exact Nat.isDigit_of_mem_toDigits (by decide) (by decide) inDigits

theorem padded_ne_nil
    (width number : Nat) :
    (padded width number).toList ≠ [] := by
  simp [padded]

theorem length_padded
    {width number : Nat}
    (fits : (Nat.toDigits 10 number).length ≤ width) :
    (padded width number).toList.length = width := by
  simp only [padded, String.toList_ofList, List.length_append, List.length_replicate]
  omega

/-- A padded number that is as long as it may be is read back, whatever follows. -/
theorem readNumber?_padded
    {width number : Nat}
    (fits : (Nat.toDigits 10 number).length ≤ width)
    (rest : List Char) :
    readNumber? width ((padded width number).toList ++ rest) = some (number, rest) := by
  have length := length_padded fits
  have ends : EndsRun width (padded width number).toList rest := .inl length
  have read :=
    readNumber?_append (padded_ne_nil width number) (fun _ => isDigit_of_mem_padded)
      (Nat.le_of_eq length) ends
  rwa [numberOf_padded] at read

end Text

namespace Timestamp

/-! ## The parts of a date and of a time of day -/

theorem isBlank_eq_false_of_isDigit
    {character : Char}
    (isDigit : character.isDigit = true) :
    Text.isBlank character = false := by
  simp only [Char.isDigit, Bool.and_eq_true, decide_eq_true_eq, UInt32.le_iff_toNat_le] at isDigit
  have low : 48 ≤ character.toNat := isDigit.1
  have high : character.toNat ≤ 57 := isDigit.2
  simp only [Text.isBlank, Bool.or_eq_false_iff, Bool.and_eq_false_iff, decide_eq_false_iff_not,
    beq_eq_false_iff_ne]
  omega

theorem afterBlanks_padded
    (width number : Nat)
    (rest : List Char) :
    afterBlanks ((Text.padded width number).toList ++ rest) =
      (Text.padded width number).toList ++ rest := by
  cases digits : (Text.padded width number).toList with
  | nil => exact absurd digits (Text.padded_ne_nil width number)
  | cons digit others =>
      have isDigit : digit.isDigit = true :=
        Text.isDigit_of_mem_padded (digits ▸ List.mem_cons_self)
      rw [List.cons_append, afterBlanks,
        List.dropWhile_cons_of_neg (by simp [isBlank_eq_false_of_isDigit isDigit])]

theorem readPart?_padded
    {number : Nat}
    (fits : number < 100)
    (rest : List Char) :
    readPart? ((Text.padded 2 number).toList ++ rest) = some (number, rest) := by
  have twoDigits : (Nat.toDigits 10 number).length ≤ 2 :=
    (Nat.length_toDigits_le_iff (by decide) (by decide)).mpr fits
  rw [readPart?, afterBlanks_padded]
  exact Text.readNumber?_padded twoDigits rest

/-- A year without a sign is read from its digits. -/
theorem readYear?_of_isDigit
    {digit : Char}
    (isDigit : digit.isDigit = true)
    (rest : List Char) :
    readYear? (digit :: rest) =
      (Text.readNumber? 4 (digit :: rest)).map fun read => ((read.1 : Int), read.2) := by
  have notBlank : afterBlanks (digit :: rest) = digit :: rest :=
    List.dropWhile_cons_of_neg (by simp [isBlank_eq_false_of_isDigit isDigit])
  rw [readYear?, notBlank]
  split
  next same =>
    cases same
    cases isDigit
  next same =>
    cases same
    cases isDigit
  next => rfl

/-- A year of four digits is read back. -/
theorem readYear?_padded
    {number : Nat}
    (fits : number < 10000)
    (rest : List Char) :
    readYear? ((Text.padded 4 number).toList ++ rest) = some ((number : Int), rest) := by
  have fourDigits : (Nat.toDigits 10 number).length ≤ 4 :=
    (Nat.length_toDigits_le_iff (by decide) (by decide)).mpr fits
  have read := Text.readNumber?_padded fourDigits rest
  cases digits : (Text.padded 4 number).toList with
  | nil => exact absurd digits (Text.padded_ne_nil 4 number)
  | cons digit others =>
      rw [digits] at read
      have isDigit : digit.isDigit = true :=
        Text.isDigit_of_mem_padded (digits ▸ List.mem_cons_self)
      rw [List.cons_append] at read ⊢
      rw [readYear?_of_isDigit isDigit, read]
      rfl

/-- The digits after the sign of a year are all read, up to a character that is no digit. -/
theorem readNumber?_length_padded
    (width number : Nat)
    {next : Char}
    (noDigit : next.isDigit = false)
    (rest : List Char) :
    Text.readNumber? ((Text.padded width number).toList ++ next :: rest).length
        ((Text.padded width number).toList ++ next :: rest) =
      some (number, next :: rest) := by
  have fits :
      (Text.padded width number).toList.length ≤
        ((Text.padded width number).toList ++ next :: rest).length := by
    simp
  have ends :
      Text.EndsRun ((Text.padded width number).toList ++ next :: rest).length
        (Text.padded width number).toList (next :: rest) := by
    right
    rintro _ ⟨⟩
    exact noDigit
  have read :=
    Text.readNumber?_append (Text.padded_ne_nil width number)
      (fun _ => Text.isDigit_of_mem_padded) fits ends
  rwa [Text.numberOf_padded] at read

theorem readYear?_plus
    (rest : List Char) :
    readYear? ('+' :: rest) =
      (Text.readNumber? rest.length rest).map fun read => ((read.1 : Int), read.2) :=
  rfl

theorem readYear?_minus
    (rest : List Char) :
    readYear? ('-' :: rest) =
      (Text.readNumber? rest.length rest).map fun read => (-(read.1 : Int), read.2) :=
  rfl

/-- A year is read back, if a character follows that is no digit. -/
theorem readYear?_yearText
    (year : Int)
    {next : Char}
    (noDigit : next.isDigit = false)
    (rest : List Char) :
    readYear? ((yearText year).toList ++ next :: rest) = some (year, next :: rest) := by
  rw [yearText]
  split
  next fourDigits =>
    rw [readYear?_padded (by omega), Int.toNat_of_nonneg fourDigits.1]
  next otherDigits =>
    split
    next isPositive =>
      have signed (digits : String) :
          ("+" ++ digits).toList ++ next :: rest = '+' :: (digits.toList ++ next :: rest) := by
        simp
      rw [signed, readYear?_plus, readNumber?_length_padded 4 year.toNat noDigit rest,
        Option.map_some, Int.toNat_of_nonneg isPositive]
    next isNegative =>
      have signed (digits : String) :
          ("-" ++ digits).toList ++ next :: rest = '-' :: (digits.toList ++ next :: rest) := by
        simp
      rw [signed, readYear?_minus, readNumber?_length_padded 4 (-year).toNat noDigit rest,
        Option.map_some, Int.toNat_of_nonneg (by omega), Int.neg_neg]

/-! ## Fractions of a second -/

/-- Digits after the point count as many nanoseconds as they do with zeros up to the ninth place. -/
theorem readFraction?_padded
    {places number nanosecond : Nat}
    (fits : (Nat.toDigits 10 number).length ≤ places)
    (atMostNine : places ≤ 9)
    (value : Nat.ofDigitChars 10 (List.replicate (9 - places) '0') number = nanosecond)
    {next : Char}
    (noDigit : next.isDigit = false)
    (rest : List Char) :
    readFraction? (("." ++ Text.padded places number).toList ++ next :: rest) =
      some (nanosecond, next :: rest) := by
  have length := Text.length_padded fits
  have ends : Text.EndsRun 9 (Text.padded places number).toList (next :: rest) := by
    right
    rintro _ ⟨⟩
    exact noDigit
  have run :=
    Text.digitRun_append (fun _ => Text.isDigit_of_mem_padded) (by omega : _ ≤ 9) ends
  have pointed :
      ("." ++ Text.padded places number).toList ++ next :: rest =
        '.' :: ((Text.padded places number).toList ++ next :: rest) := by
    simp
  rw [pointed, readFraction?, run]
  split
  next same => exact absurd (Prod.mk.inj same).1 (Text.padded_ne_nil places number)
  next same =>
    rcases Prod.mk.inj same with ⟨rfl, rfl⟩
    dsimp only
    rw [Text.numberOf_eq_ofDigitChars, Nat.ofDigitChars_append, ← Text.numberOf_eq_ofDigitChars,
      Text.numberOf_padded, length, value, List.dropWhile_cons_of_neg (by simp [noDigit])]

/-- The fraction of a second is read back, however many digits it has. -/
theorem readFraction?_fractionText
    {nanosecond : Nat}
    (fits : nanosecond < 1000000000)
    (rest : List Char) :
    readFraction? ((fractionText nanosecond).toList ++ 'Z' :: rest) =
      some (nanosecond, 'Z' :: rest) := by
  rw [fractionText]
  split
  next zero =>
    rw [zero]
    rfl
  next notZero =>
    split
    next threePlaces =>
      have fits : (Nat.toDigits 10 (nanosecond / 1000000)).length ≤ 3 :=
        (Nat.length_toDigits_le_iff (by decide) (by decide)).mpr (by omega)
      exact readFraction?_padded fits (by decide)
        (by rw [Nat.ofDigitChars_replicate_zero]; omega) rfl rest
    next moreThanThree =>
      split
      next sixPlaces =>
        have fits : (Nat.toDigits 10 (nanosecond / 1000)).length ≤ 6 :=
          (Nat.length_toDigits_le_iff (by decide) (by decide)).mpr (by omega)
        exact readFraction?_padded fits (by decide)
          (by rw [Nat.ofDigitChars_replicate_zero]; omega) rfl rest
      next ninePlaces =>
        have ninePlacesFit : (Nat.toDigits 10 nanosecond).length ≤ 9 :=
          (Nat.length_toDigits_le_iff (by decide) (by decide)).mpr fits
        exact readFraction?_padded ninePlacesFit (by decide) rfl rfl rest

/-! ## Points in time -/

theorem daysIn_le
    (year : Int)
    (month : Nat) :
    Calendar.daysIn year month ≤ 31 := by
  rw [Calendar.daysIn]
  repeat' split
  all_goals decide

variable {time : Timestamp}

/-- In universal time there is nothing to convert. -/
theorem fromZone_zero
    (hours : time.hour ≤ 23)
    (minutes : time.minute ≤ 59) :
    time.fromZone 0 = time := by
  have early : ¬ ((time.hour * 60 + time.minute : Nat) - (0 : Int) < 0) := by omega
  have late : ¬ (1440 ≤ (time.hour * 60 + time.minute : Nat) - (0 : Int)) := by omega
  have sameHour :
      (((time.hour * 60 + time.minute : Nat) - (0 : Int)) % 1440).toNat / 60 = time.hour := by
    omega
  have sameMinute :
      (((time.hour * 60 + time.minute : Nat) - (0 : Int)) % 1440).toNat % 60 = time.minute := by
    omega
  simp only [fromZone, if_neg early, if_neg late, sameHour, sameMinute]

/-- What a point in time is written as, part by part. -/
theorem toList_text
    (time : Timestamp) :
    time.text.toList =
      (yearText time.year).toList ++ '-' :: ((Text.padded 2 time.month).toList ++ '-' ::
        ((Text.padded 2 time.day).toList ++ 'T' :: ((Text.padded 2 time.hour).toList ++ ':' ::
          ((Text.padded 2 time.minute).toList ++ ':' :: ((Text.padded 2 time.second).toList ++
            ((fractionText time.nanosecond).toList ++ ['Z'])))))) := by
  simp [text, String.toList_append]

theorem readSeparator?_cons
    {separator : Char}
    (notBlank : Text.isBlank separator = false)
    (rest : List Char) :
    readSeparator? separator (separator :: rest) = some rest := by
  rw [readSeparator?, afterBlanks, List.dropWhile_cons_of_neg (by simp [notBlank])]
  exact if_pos rfl

theorem readDivider?_cons
    (rest : List Char) :
    readDivider? ('T' :: rest) = some rest :=
  rfl

/-- What reading ends with: nothing is left but blanks, and the point in time is valid in its zone and in
universal time. -/
def finished?
    (inZone : Timestamp)
    (zone : Int × List Char) : Option Timestamp := do
  let time := inZone.fromZone zone.1
  guard ((afterBlanks zone.2).isEmpty && inZone.isValid && time.isValid)
  return time

theorem isValid_of_finished?
    {inZone : Timestamp}
    {zone : Int × List Char} :
    ∀ time ∈ finished? inZone zone, time.isValid = true := by
  intro time finished
  have guarded :
      (if ((afterBlanks zone.2).isEmpty && inZone.isValid &&
          (inZone.fromZone zone.1).isValid) = true then some () else none).bind
        (fun _ => some (inZone.fromZone zone.1)) = some time :=
    finished
  split at guarded
  next holds =>
    simp only [Bool.and_eq_true] at holds
    cases guarded
    exact holds.2
  next => cases guarded

/-- A point in time is read part by part. -/
theorem ofText?_eq
    (text : String) :
    ofText? text =
      (readYear? text.toList).bind fun year =>
        (readSeparator? '-' year.2).bind fun rest => (readPart? rest).bind fun month =>
        (readSeparator? '-' month.2).bind fun rest => (readPart? rest).bind fun day =>
        (readDivider? day.2).bind fun rest => (readPart? rest).bind fun hour =>
        (readSeparator? ':' hour.2).bind fun rest => (readPart? rest).bind fun minute =>
        (readSeparator? ':' minute.2).bind fun rest => (readPart? rest).bind fun second =>
        (readFraction? second.2).bind fun fraction =>
        (readZone? (afterBlanks fraction.2)).bind fun zone =>
        finished? ⟨year.1, month.1, day.1, hour.1, minute.1, second.1, fraction.1⟩ zone :=
  rfl

/-- A valid point in time is read back from what is written for it. -/
theorem ofText?_text
    (valid : time.isValid = true) :
    ofText? time.text = some time := by
  have inRange := valid
  simp only [isValid, Bool.and_eq_true, decide_eq_true_eq] at inRange
  have days := daysIn_le time.year time.month
  have universal : time.fromZone 0 = time := fromZone_zero (by omega) (by omega)
  have zone : readZone? (afterBlanks ['Z']) = some (0, []) := rfl
  have noDigit : '-'.isDigit = false := rfl
  have hyphen : Text.isBlank '-' = false := rfl
  have colon : Text.isBlank ':' = false := rfl
  rw [ofText?_eq, toList_text, readYear?_yearText time.year noDigit, Option.bind_some,
    readSeparator?_cons hyphen, Option.bind_some, readPart?_padded (by omega), Option.bind_some,
    readSeparator?_cons hyphen, Option.bind_some, readPart?_padded (by omega), Option.bind_some,
    readDivider?_cons, Option.bind_some, readPart?_padded (by omega), Option.bind_some,
    readSeparator?_cons colon, Option.bind_some, readPart?_padded (by omega), Option.bind_some,
    readSeparator?_cons colon, Option.bind_some, readPart?_padded (by omega), Option.bind_some,
    readFraction?_fractionText inRange.2, Option.bind_some, zone, Option.bind_some]
  rw [finished?, universal, valid]
  rfl

/-- What holds of all that may follow holds of what is read in two parts. -/
theorem forall_of_bind
    {First Second : Type}
    {holds : Second → Prop}
    {first : Option First}
    {next : First → Option Second}
    (rest : ∀ value, ∀ result ∈ next value, holds result) :
    ∀ result ∈ first.bind next, holds result := by
  intro result read
  rcases Option.bind_eq_some_iff.mp read with ⟨value, -, follows⟩
  exact rest value result follows

/-- Only valid points in time are read. -/
theorem isValid_of_ofText?
    {text : String}
    (read : ofText? text = some time) :
    time.isValid = true := by
  have valid : ∀ time ∈ ofText? text, time.isValid = true := by
    rw [ofText?_eq]
    exact forall_of_bind fun _year => forall_of_bind fun _ => forall_of_bind fun _month =>
      forall_of_bind fun _ => forall_of_bind fun _day => forall_of_bind fun _ =>
      forall_of_bind fun _hour => forall_of_bind fun _ => forall_of_bind fun _minute =>
      forall_of_bind fun _ => forall_of_bind fun _second => forall_of_bind fun _fraction =>
      forall_of_bind fun _zone => isValid_of_finished?
  exact valid time read

end Timestamp

end IngressConvergence
