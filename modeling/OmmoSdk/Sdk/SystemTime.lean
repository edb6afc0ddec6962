/-
# Sdk.SystemTime — `SystemTimeToString` and its texts read back

`time_t` is a bit vector of 32 or 64 bits, so the guard's `~` and `>>`, the cast to `uint64_t`
and the narrowing of the seconds are those of the code.  `localtime_r` is a parameter:
`Localtime` says that it fills the Gregorian fields of the seconds plus an offset of whole
minutes, any offset at any time.  The branches for Windows are left out.

`readTimestamp` reads `YYYY-MM-DDTHH:MM:SS.sss±hh:mm`, checks that there is such a date and
time, and gives the milliseconds since the epoch.  `read_localTimeText` is the round trip of
one text.  The guard never refuses (`timeTMax_eq`), so the function is faithful exactly for
the seconds that `time_t` can hold.
-/
import OmmoSdk.Theory.Calendar
import OmmoSdk.Theory.FixedWidth

namespace OmmoSdk.Sdk

open OmmoSdk.Theory

set_option autoImplicit false

/-! ## `time_t` and `localtime_r` -/

inductive TimeWidth where
  | bits32
  | bits64
  deriving DecidableEq, Repr

namespace TimeWidth

def bits : TimeWidth → Nat
  | bits32 => 32
  | bits64 => 64

/-- The largest `time_t`. -/
def largest (width : TimeWidth) : Nat := 2 ^ (width.bits - 1) - 1

end TimeWidth

abbrev TimeT (width : TimeWidth) := BitVec width.bits

/-- The members of `std::tm` that are read. -/
structure Tm where
  tmSec : Int
  tmMin : Int
  tmHour : Int
  tmMday : Int
  tmMon : Int
  tmYear : Int
  tmGmtoff : Int
  deriving DecidableEq, Repr

def unixEpoch : Int := daysBeforeYear 1970

/-- The Gregorian fields of a time that is `localSeconds` after the epoch on local clocks. -/
def Tm.gregorian (localSeconds offset : Int) : Tm where
  tmSec := localSeconds % 60
  tmMin := localSeconds % 3600 / 60
  tmHour := localSeconds % 86400 / 3600
  tmMday := (Date.ofDays (unixEpoch + localSeconds / 86400)).day
  tmMon := (Date.ofDays (unixEpoch + localSeconds / 86400)).month - 1
  tmYear := (Date.ofDays (unixEpoch + localSeconds / 86400)).year - 1900
  tmGmtoff := offset

/-- The local time of a zone: at every time an offset of whole minutes, less than a day. -/
structure Localtime where
  localtimeR : Int → Option Tm
  gmtoff : Int → Int
  fills : ∀ seconds,
    localtimeR seconds = some (.gregorian (seconds + gmtoff seconds) (gmtoff seconds))
  wholeMinutes : ∀ seconds, 60 ∣ gmtoff seconds
  belowDay : ∀ seconds, (gmtoff seconds).natAbs < 86400

/-! ## The function -/

/-- `std::time_t(~std::time_t{0} >> 1)` as a `uint64_t`. -/
def timeTMax (width : TimeWidth) : BitVec 64 :=
  ((~~~(0 : TimeT width)).sshiftRight 1).signExtend 64

/-- `"%04d-%02d-%02dT%02d:%02d:%02d.%03d%c%02d:%02d"` -/
def formatTimestamp (year mon mday hour min sec ms : Int) (sign : Char)
    (offsetHour offsetMin : Int) : List Char :=
  formatD 4 year ++ '-' :: (formatD 2 mon ++ '-' :: (formatD 2 mday ++ 'T' ::
    (formatD 2 hour ++ ':' :: (formatD 2 min ++ ':' :: (formatD 2 sec ++ '.' ::
      (formatD 3 ms ++ sign :: (formatD 2 offsetHour ++ ':' :: formatD 2 offsetMin)))))))

/-- What is printed for a local time, or `none` if a value is out of range.  The offset is not
negative where it is divided. -/
def localTimeText (tmLocal : Tm) (ms : Int) : Option (List Char) :=
  let offsetSec := tmLocal.tmGmtoff
  let sign := if 0 ≤ offsetSec then '+' else '-'
  let offsetAbs : Int := offsetSec.natAbs
  let offsetHour := offsetAbs / 3600
  let offsetMin := offsetAbs % 3600 / 60
  let year := tmLocal.tmYear + 1900
  if year < 1900 ∨ 9999 < year ∨ offsetHour < 0 ∨ 23 < offsetHour then none
  else some (formatTimestamp year (tmLocal.tmMon + 1) tmLocal.tmMday tmLocal.tmHour tmLocal.tmMin
    tmLocal.tmSec ms sign offsetHour offsetMin)

def nul : Char := Char.ofNat 0

/-- `std::snprintf`: the length of the text, and the buffer with as much of the text as fits
and a terminator. -/
def snprintf (buffer : List Char) (bufferSize : Nat) (text : List Char) : Nat × List Char :=
  if bufferSize = 0 then (text.length, buffer)
  else
    let written := text.take (bufferSize - 1) ++ [nul]
    (text.length, written ++ buffer.drop written.length)

def bufferSizeMin : Nat := 30

/-- The result and the buffer, which may be the null pointer. -/
def systemTimeToString (width : TimeWidth) (clock : Localtime) (milliseconds : UInt64)
    (buffer : Option (List Char)) (bufferSize : Nat) : Bool × Option (List Char) :=
  match buffer with
  | none => (false, none)
  | some chars =>
      if bufferSize < bufferSizeMin then (false, some chars)
      else
        let timeTSeconds := milliseconds / 1000
        if timeTMax width < timeTSeconds.toBitVec then (false, some chars)
        else
          -- the narrowing conversion keeps the low bits
          let seconds : TimeT width := timeTSeconds.toBitVec.setWidth width.bits
          match clock.localtimeR seconds.toInt with
          | none => (false, some chars)
          | some tmLocal =>
              match localTimeText tmLocal (milliseconds % 1000).toNat with
              | none => (false, some chars)
              | some text =>
                  let (result, chars) := snprintf chars bufferSize text
                  (result = bufferSizeMin - 1, some chars)

/-! ## Reading a text back -/

def readSign : Reader Int := do
  let c ← Reader.anyChar
  if c = '+' then return 1
  else if c = '-' then return -1
  else failure

/-- `YYYY-MM-DDTHH:MM:SS.sss±hh:mm`, as milliseconds since the epoch. -/
def timestamp : Reader Int := do
  let year ← Reader.number 4
  Reader.literal '-'
  let month ← Reader.number 2
  Reader.literal '-'
  let day ← Reader.number 2
  Reader.literal 'T'
  let hour ← Reader.number 2
  Reader.literal ':'
  let minute ← Reader.number 2
  Reader.literal ':'
  let second ← Reader.number 2
  Reader.literal '.'
  let ms ← Reader.number 3
  let sign ← readSign
  let offsetHour ← Reader.number 2
  Reader.literal ':'
  let offsetMinute ← Reader.number 2
  if valid : IsDate year month day ∧ hour < 24 ∧ minute < 60 ∧ second < 60 ∧
      offsetHour < 24 ∧ offsetMinute < 60 then
    let days := Date.toDays ⟨year, month, day, valid.1⟩ - unixEpoch
    let localSeconds := days * 86400 + hour * 3600 + minute * 60 + second
    return (localSeconds - sign * (offsetHour * 3600 + offsetMinute * 60)) * 1000 + ms
  else failure

def readTimestamp (text : List Char) : Option Int := Reader.readAll timestamp text

/-! ## The round trip of a text -/

section RoundTrip

open Reader

theorem run_readSign (offset : Int) (rest : List Char) :
    readSign.run ((if 0 ≤ offset then '+' else '-') :: rest) =
      some (if 0 ≤ offset then 1 else -1, rest) := by
  split <;> rfl

variable {year month day hour minute second ms offsetHour offsetMinute : Nat}

/-- The reader goes through a printed text field by field. -/
theorem readTimestamp_formatTimestamp (offset : Int) (yearFits : year < 10 ^ 4)
    (msFits : ms < 10 ^ 3) (valid : IsDate year month day ∧ hour < 24 ∧ minute < 60 ∧
      second < 60 ∧ offsetHour < 24 ∧ offsetMinute < 60) :
    readTimestamp (formatTimestamp year month day hour minute second ms
        (if 0 ≤ offset then '+' else '-') offsetHour offsetMinute) =
      some (((Date.toDays ⟨year, month, day, valid.1⟩ - unixEpoch) * 86400 + hour * 3600 +
          minute * 60 + second -
        (if 0 ≤ offset then 1 else -1) * (offsetHour * 3600 + offsetMinute * 60)) * 1000 + ms) := by
  have monthFits := (Date.month_le ⟨year, month, day, valid.1⟩).trans_lt (by decide : 12 < 10 ^ 2)
  have dayFits := (Date.day_le ⟨year, month, day, valid.1⟩).trans_lt (by decide : 31 < 10 ^ 2)
  obtain ⟨isDate, hourLt, minuteLt, secondLt, offsetHourLt, offsetMinuteLt⟩ := valid
  refine readAll_of_run ?_
  simp only [formatTimestamp, formatD_natCast]
  rw [timestamp]
  rw [run_bind (run_number (by decide) yearFits _), run_bind (run_literal _ _),
    run_bind (run_number (by decide) monthFits _), run_bind (run_literal _ _),
    run_bind (run_number (by decide) dayFits _), run_bind (run_literal _ _),
    run_bind (run_number (by decide) (hourLt.trans (by decide)) _), run_bind (run_literal _ _),
    run_bind (run_number (by decide) (minuteLt.trans (by decide)) _), run_bind (run_literal _ _),
    run_bind (run_number (by decide) (secondLt.trans (by decide)) _), run_bind (run_literal _ _),
    run_bind (run_number (by decide) msFits _), run_bind (run_readSign _ _),
    run_bind (run_number (by decide) (offsetHourLt.trans (by decide)) _),
    run_bind (run_literal _ _), ← List.append_nil (paddedDigits 2 offsetMinute),
    run_bind (run_number (by decide) (offsetMinuteLt.trans (by decide)) _),
    dif_pos ⟨isDate, hourLt, minuteLt, secondLt, offsetHourLt, offsetMinuteLt⟩]
  rfl

theorem length_formatTimestamp {sign : Char} (yearFits : year < 10 ^ 4) (monthFits : month < 10 ^ 2)
    (dayFits : day < 10 ^ 2) (hourFits : hour < 10 ^ 2) (minuteFits : minute < 10 ^ 2)
    (secondFits : second < 10 ^ 2) (msFits : ms < 10 ^ 3) (offsetHourFits : offsetHour < 10 ^ 2)
    (offsetMinuteFits : offsetMinute < 10 ^ 2) :
    (formatTimestamp year month day hour minute second ms sign offsetHour offsetMinute).length =
      29 := by
  simp only [formatTimestamp, formatD_natCast, List.length_append, List.length_cons,
    length_paddedDigits (by decide) yearFits, length_paddedDigits (by decide) monthFits,
    length_paddedDigits (by decide) dayFits, length_paddedDigits (by decide) hourFits,
    length_paddedDigits (by decide) minuteFits, length_paddedDigits (by decide) secondFits,
    length_paddedDigits (by decide) msFits, length_paddedDigits (by decide) offsetHourFits,
    length_paddedDigits (by decide) offsetMinuteFits]

theorem nul_not_mem_paddedDigits (width n : Nat) : nul ∉ paddedDigits width n := by
  intro member
  exact absurd (isDigit_of_mem_paddedDigits member) (by decide)

theorem nul_not_mem_formatTimestamp (offset : Int) :
    nul ∉ formatTimestamp year month day hour minute second ms (if 0 ≤ offset then '+' else '-')
      offsetHour offsetMinute := by
  have sign : nul ≠ if 0 ≤ offset then '+' else '-' := by
    split <;> decide
  have separators : nul ≠ '-' ∧ nul ≠ 'T' ∧ nul ≠ ':' ∧ nul ≠ '.' := by decide
  simp only [formatTimestamp, formatD_natCast, List.mem_append, List.mem_cons,
    nul_not_mem_paddedDigits, sign, separators, or_false, not_false_eq_true]

/-- **The round trip.**  A text that is printed for a local time has 29 characters and reads
as the time with the offset taken off. -/
theorem read_localTimeText {localSeconds offset : Int} {text : List Char}
    (wholeMinutes : 60 ∣ offset) (msFits : ms < 1000)
    (printed : localTimeText (.gregorian localSeconds offset) ms = some text) :
    text.length = 29 ∧ nul ∉ text ∧
      readTimestamp text = some ((localSeconds - offset) * 1000 + ms) := by
  have days := Date.toDays_ofDays (unixEpoch + localSeconds / 86400)
  obtain ⟨hour, isHour⟩ := Int.eq_ofNat_of_zero_le (a := localSeconds % 86400 / 3600) (by omega)
  obtain ⟨minute, isMinute⟩ := Int.eq_ofNat_of_zero_le (a := localSeconds % 3600 / 60) (by omega)
  obtain ⟨second, isSecond⟩ := Int.eq_ofNat_of_zero_le (a := localSeconds % 60) (by omega)
  obtain ⟨offsetHour, isOffsetHour⟩ :=
    Int.eq_ofNat_of_zero_le (a := (offset.natAbs : Int) / 3600) (by omega)
  obtain ⟨offsetMinute, isOffsetMinute⟩ :=
    Int.eq_ofNat_of_zero_le (a := (offset.natAbs : Int) % 3600 / 60) (by omega)
  unfold localTimeText at printed
  simp only [Tm.gregorian, isHour, isMinute, isSecond, isOffsetHour, isOffsetMinute,
    Int.sub_add_cancel] at printed
  -- the date without the way it was found
  generalize Date.ofDays (unixEpoch + localSeconds / 86400) = date at printed days
  obtain ⟨dateYear, month, day, isDate⟩ := date
  dsimp only at printed
  split at printed
  · cases printed
  · rename_i inRange
    obtain ⟨year, rfl⟩ := Int.eq_ofNat_of_zero_le (a := dateYear) (by omega)
    cases printed
    have valid : IsDate year month day ∧ hour < 24 ∧ minute < 60 ∧ second < 60 ∧
        offsetHour < 24 ∧ offsetMinute < 60 := by
      refine ⟨isDate, ?_⟩
      omega
    have yearFits : year < 10 ^ 4 := by omega
    have monthFits := (Date.month_le ⟨year, month, day, isDate⟩).trans_lt (by decide : 12 < 10 ^ 2)
    have dayFits := (Date.day_le ⟨year, month, day, isDate⟩).trans_lt (by decide : 31 < 10 ^ 2)
    refine ⟨length_formatTimestamp yearFits monthFits dayFits ?_ ?_ ?_ msFits ?_ ?_,
      nul_not_mem_formatTimestamp _, ?_⟩
    iterate 5 omega
    rw [readTimestamp_formatTimestamp offset yearFits msFits valid, days]
    congr 1
    split <;> omega

end RoundTrip

/-- Between the years 1900 and 9999 every local time is printed. -/
theorem localTimeText_of_year {localSeconds offset : Int} (ms : Int)
    (belowDay : offset.natAbs < 86400)
    (first : daysBeforeYear 1900 ≤ unixEpoch + localSeconds / 86400)
    (last : unixEpoch + localSeconds / 86400 < daysBeforeYear 10000) :
    ∃ text, localTimeText (.gregorian localSeconds offset) ms = some text := by
  have from1900 := le_yearOfDay_iff.mpr first
  have to9999 : yearOfDay (unixEpoch + localSeconds / 86400) < 10000 := by
    by_contra later
    exact absurd (le_yearOfDay_iff.mp (not_lt.mp later)) (not_le.mpr last)
  have inRange : ¬ (yearOfDay (unixEpoch + localSeconds / 86400) - 1900 + 1900 < 1900 ∨
      9999 < yearOfDay (unixEpoch + localSeconds / 86400) - 1900 + 1900 ∨
      (offset.natAbs : Int) / 3600 < 0 ∨ 23 < (offset.natAbs : Int) / 3600) := by
    omega
  exact ⟨_, if_neg inRange⟩

/-! ## The guard and the narrowing -/

/-- `~0` is -1, and so is `-1 >> 1`: the guard compares with the largest `uint64_t`. -/
theorem timeTMax_eq (width : TimeWidth) : timeTMax width = BitVec.allOnes 64 := by
  cases width <;> decide

theorem not_timeTMax_lt (width : TimeWidth) (seconds : BitVec 64) : ¬ timeTMax width < seconds := by
  intro less
  rw [timeTMax_eq, BitVec.lt_def, BitVec.toNat_allOnes] at less
  have := seconds.isLt
  omega

/-- The seconds as `time_t` holds them. -/
def storedSeconds (width : TimeWidth) (milliseconds : UInt64) : Int :=
  ((milliseconds / 1000).toBitVec.setWidth width.bits).toInt

theorem toNat_seconds (milliseconds : UInt64) :
    (milliseconds / 1000).toBitVec.toNat = milliseconds.toNat / 1000 :=
  UInt64.toNat_div _ _

theorem storedSeconds_eq {width : TimeWidth} {milliseconds : UInt64}
    (fits : milliseconds.toNat / 1000 ≤ width.largest) :
    storedSeconds width milliseconds = (milliseconds.toNat / 1000 : Nat) := by
  have power : 2 ^ width.bits = 2 * (width.largest + 1) := by
    cases width <;> rfl
  have kept : ((milliseconds / 1000).toBitVec.setWidth width.bits).toNat =
      milliseconds.toNat / 1000 := by
    rw [BitVec.toNat_setWidth, toNat_seconds, Nat.mod_eq_of_lt (by omega)]
  rw [storedSeconds, BitVec.toInt_eq_toNat_of_lt (by omega), kept]

/-- 64 bits hold every number of seconds. -/
theorem seconds_le_largest_bits64 (milliseconds : UInt64) :
    milliseconds.toNat / 1000 ≤ TimeWidth.largest .bits64 := by
  have := milliseconds.toNat_lt
  show milliseconds.toNat / 1000 ≤ 2 ^ 63 - 1
  omega

theorem storedSeconds_bounds (width : TimeWidth) (milliseconds : UInt64) :
    -2 ^ 31 ≤ storedSeconds width milliseconds ∧ storedSeconds width milliseconds < 2 ^ 55 := by
  cases width with
  | bits32 =>
      have lower : -2 ^ 31 ≤ storedSeconds .bits32 milliseconds := BitVec.le_toInt _
      have upper : storedSeconds .bits32 milliseconds < 2 ^ 31 := BitVec.toInt_lt
      omega
  | bits64 =>
      have := milliseconds.toNat_lt
      rw [storedSeconds_eq (seconds_le_largest_bits64 milliseconds)]
      omega

/-- `tm_year` and the year fit into an `int`. -/
theorem tmYear_bounds (width : TimeWidth) (clock : Localtime) (milliseconds : UInt64) {tm : Tm}
    (filled : clock.localtimeR (storedSeconds width milliseconds) = some tm) :
    -2 ^ 31 ≤ tm.tmYear ∧ tm.tmYear + 1900 < 2 ^ 31 := by
  obtain ⟨lower, upper⟩ := storedSeconds_bounds width milliseconds
  have belowDay := clock.belowDay (storedSeconds width milliseconds)
  rw [clock.fills] at filled
  cases filled
  obtain ⟨n, isDay⟩ : ∃ n, n = unixEpoch + (storedSeconds width milliseconds +
    clock.gmtoff (storedSeconds width milliseconds)) / 86400 := ⟨_, rfl⟩
  have epoch : unixEpoch = 719162 := rfl
  have yearOne : daysBeforeYear 1 = 0 := rfl
  have yearMax : daysBeforeYear (2 ^ 31) = 784352295939 := rfl
  have first : 1 ≤ yearOfDay n := le_yearOfDay_iff.mpr (by omega)
  have last : ¬ 2 ^ 31 ≤ yearOfDay n := mt le_yearOfDay_iff.mp (by omega)
  show -2 ^ 31 ≤ yearOfDay _ - 1900 ∧ yearOfDay _ - 1900 + 1900 < 2 ^ 31
  rw [← isDay]
  omega

/-! ## The outcome of a call -/

/-- A text that fits is written with its terminator; the rest of the buffer stays. -/
theorem snprintf_eq {buffer text : List Char} {bufferSize : Nat} (fits : text.length < bufferSize) :
    snprintf buffer bufferSize text =
      (text.length, text ++ nul :: buffer.drop (text.length + 1)) := by
  have whole : text.take (bufferSize - 1) = text := List.take_of_length_le (by omega)
  rw [snprintf, if_neg (by omega)]
  simp only [whole, List.length_append, List.length_singleton, List.append_assoc,
    List.singleton_append]

section Outcome

variable {width : TimeWidth} {clock : Localtime} {milliseconds : UInt64} {buffer : List Char}

/-- The text for the seconds that `time_t` holds. -/
def storedText (width : TimeWidth) (clock : Localtime) (milliseconds : UInt64) :
    Option (List Char) :=
  let seconds := storedSeconds width milliseconds
  localTimeText (.gregorian (seconds + clock.gmtoff seconds) (clock.gmtoff seconds))
    (milliseconds % 1000).toNat

/-- The guard lets every time pass, so the outcome is that of the text. -/
theorem systemTimeToString_eq (large : 30 ≤ buffer.length) :
    systemTimeToString width clock milliseconds (some buffer) buffer.length =
      match storedText width clock milliseconds with
      | none => (false, some buffer)
      | some text => ((snprintf buffer buffer.length text).1 = 29,
          some (snprintf buffer buffer.length text).2) := by
  rw [systemTimeToString]
  simp only [if_neg (not_lt.mpr large : ¬ buffer.length < bufferSizeMin),
    if_neg (not_timeTMax_lt width _), clock.fills]
  rfl

/-- What is printed is the time that `time_t` holds. -/
theorem read_storedText {text : List Char}
    (printed : storedText width clock milliseconds = some text) :
    text.length = 29 ∧ nul ∉ text ∧ readTimestamp text =
      some (storedSeconds width milliseconds * 1000 + milliseconds.toNat % 1000) := by
  have msLt : (milliseconds % 1000).toNat < 1000 := by
    rw [UInt64.toNat_mod]
    exact Nat.mod_lt _ (by decide)
  have round := read_localTimeText (clock.wholeMinutes _) msLt printed
  rw [add_sub_cancel_right, UInt64.toNat_mod] at round
  exact round

theorem systemTimeToString_of_printed {text : List Char} (large : 30 ≤ buffer.length)
    (printed : storedText width clock milliseconds = some text) :
    systemTimeToString width clock milliseconds (some buffer) buffer.length =
      (true, some (text ++ nul :: buffer.drop 30)) := by
  have length := (read_storedText printed).1
  rw [systemTimeToString_eq large, printed]
  simp only [snprintf_eq (by omega : text.length < buffer.length), length, decide_true]

/-- With 32 bits the function always prints: those years are between 1901 and 2038. -/
theorem storedText_bits32 (clock : Localtime) (milliseconds : UInt64) :
    ∃ text, storedText .bits32 clock milliseconds = some text := by
  have lower := (storedSeconds_bounds .bits32 milliseconds).1
  have upper : storedSeconds .bits32 milliseconds < 2 ^ 31 := BitVec.toInt_lt
  have belowDay := clock.belowDay (storedSeconds .bits32 milliseconds)
  have year1900 : daysBeforeYear 1900 = 693595 := rfl
  have epoch : unixEpoch = 719162 := rfl
  have year10000 : daysBeforeYear 10000 = 3652059 := rfl
  exact localTimeText_of_year _ belowDay (by omega) (by omega)

end Outcome

/-! ## Faithful texts -/

/-- If the function returns true, the buffer holds 29 characters and a terminator, and they
read as the milliseconds; seconds beyond `time_t` are refused. -/
structure FaithfulText (width : TimeWidth) (clock : Localtime) (milliseconds : UInt64)
    (buffer : List Char) : Prop where
  reads : (systemTimeToString width clock milliseconds (some buffer) buffer.length).1 = true →
    ∃ text, (systemTimeToString width clock milliseconds (some buffer) buffer.length).2 =
        some (text ++ nul :: buffer.drop 30) ∧
      text.length = 29 ∧ nul ∉ text ∧ readTimestamp text = some (milliseconds.toNat : Int)
  refuses : width.largest < milliseconds.toNat / 1000 →
    (systemTimeToString width clock milliseconds (some buffer) buffer.length).1 = false

/-- The function is faithful exactly for the seconds that `time_t` can hold. -/
theorem systemTimeToString_faithful_iff (width : TimeWidth) (clock : Localtime)
    (milliseconds : UInt64) (buffer : List Char) (large : 30 ≤ buffer.length) :
    FaithfulText width clock milliseconds buffer ↔
      milliseconds.toNat / 1000 ≤ width.largest := by
  constructor
  · intro faithful
    by_contra beyond
    have refused := faithful.refuses (not_le.mp beyond)
    cases width with
    | bits64 => exact beyond (seconds_le_largest_bits64 milliseconds)
    | bits32 =>
        obtain ⟨text, printed⟩ := storedText_bits32 clock milliseconds
        rw [systemTimeToString_of_printed large printed] at refused
        cases refused
  · intro fits
    refine ⟨fun returned => ?_, fun beyond => absurd fits (not_le.mpr beyond)⟩
    cases printed : storedText width clock milliseconds with
    | none =>
        rw [systemTimeToString_eq large, printed] at returned
        cases returned
    | some text =>
        obtain ⟨length, terminated, read⟩ := read_storedText printed
        rw [systemTimeToString_of_printed large printed]
        refine ⟨text, rfl, length, terminated, ?_⟩
        rw [read, storedSeconds_eq fits]
        congr 1
        omega

/-! ### A fixed offset -/

/-- A zone with one offset. -/
def Localtime.fixed (offset : Int) (wholeMinutes : 60 ∣ offset) (belowDay : offset.natAbs < 86400) :
    Localtime where
  localtimeR seconds := some (.gregorian (seconds + offset) offset)
  gmtoff _ := offset
  fills _ := rfl
  wholeMinutes _ := wholeMinutes
  belowDay _ := belowDay

def Localtime.utc : Localtime := .fixed 0 (by decide) (by decide)

theorem systemTimeToString_faithful_iff_utc :
    FaithfulText .bits64 .utc 1700000000123 (List.replicate 30 nul) :=
  (systemTimeToString_faithful_iff .bits64 .utc 1700000000123 (List.replicate 30 nul)
    (by decide)).mpr (by decide)

/-- The first second that 32 bits do not hold is printed as a second of 1901. -/
theorem systemTimeToString_wraps :
    TimeWidth.largest .bits32 < (2147483648000 : UInt64).toNat / 1000 ∧
      systemTimeToString .bits32 .utc 2147483648000 (some (List.replicate 30 nul)) 30 =
        (true, some ("1901-12-13T20:45:52.000+00:00".toList ++ [nul])) :=
  ⟨by decide, by decide⟩

end OmmoSdk.Sdk
