import Mathlib.Algebra.Order.Group.Nat
import Treasury.Proofs.Text.Digits
import Treasury.Time

/-!
# Times in the order of their texts

Leases are compared by the texts of their times. That this compares the times themselves rests on
three things: days in order have dates in order (`dateOf_precedes`), numbers in order have digits in
order if they are padded to one width (`padded_lt`), and all fields but the year have one width. The
year has four digits from the year 0 to the year 9999, and so this is where the two orders agree
(`toText?_lt`). A year before has a sign, which comes before all digits.
-/

namespace Treasury.Time

/-! ## Dates -/

/-- The year of a span to which one of its days belongs. -/
def yearOfSpan (day : Nat) : Nat := (day - day / 1460 + day / 36524 - day / 146096) / 365

/-- The days of a span before one of its years. -/
def daysBefore (year : Nat) : Nat := 365 * year + year / 4 - year / 100

/-- The day of a span on which a day falls. -/
def dayOfSpan (days : Int) : Nat :=
  (days + 719468 - (days + 719468).fdiv 146097 * 146097).toNat

/-- The year of a day, if years start in March. -/
def marchYear (days : Int) : Int :=
  (days + 719468).fdiv 146097 * 400 + yearOfSpan (dayOfSpan days)

/-- The day of such a year on which a day falls. -/
def dayOfYear (days : Int) : Nat := dayOfSpan days - daysBefore (yearOfSpan (dayOfSpan days))

/-- The date of a day of such a year. -/
def Date.ofMarch (year : Int) (day : Nat) : Date :=
  let monthFromMarch := (5 * day + 2) / 153
  let month := if monthFromMarch < 10 then monthFromMarch + 3 else monthFromMarch - 9
  { year := year + (if month ≤ 2 then 1 else 0)
    month := month
    day := day - (153 * monthFromMarch + 2) / 5 + 1 }

theorem yearOfSpan_mono : Monotone yearOfSpan := by
  refine monotone_nat_of_le_succ fun day => Nat.div_le_div_right ?_
  have h : ∀ n, n / 146096 = n / 36524 / 4 := fun n => by rw [Nat.div_div_eq_div_mul]
  rw [h, h]
  omega

/-- A span is made of centuries of 36524 days, those of spans of four years of 1461, and those of
years of 365; the days that are left over belong to the last part of each. -/
theorem exists_parts {day : Nat} (h : day ≤ 146096) : ∃ century fourth year rest,
    day = 36524 * century + 1461 * fourth + (365 * year + rest)
      ∧ century ≤ 3 ∧ fourth ≤ 24 ∧ year ≤ 3 ∧ rest ≤ 365
      ∧ (century < 3 → 1461 * fourth + (365 * year + rest) < 36524)
      ∧ (year < 3 → rest < 365) := by
  obtain ⟨century, r, rfl, hcentury, hr⟩ : ∃ century r, day = 36524 * century + r ∧ century ≤ 3
      ∧ r ≤ 36524 ∧ (century < 3 → r < 36524) :=
    ⟨min (day / 36524) 3, day - 36524 * min (day / 36524) 3, by omega⟩
  obtain ⟨fourth, s, rfl, hfourth, hs⟩ : ∃ fourth s, r = 1461 * fourth + s ∧ fourth ≤ 24
      ∧ s < 1461 :=
    ⟨r / 1461, r % 1461, by omega⟩
  obtain ⟨year, rest, rfl, hyear, hrest⟩ : ∃ year rest, s = 365 * year + rest ∧ year ≤ 3
      ∧ rest ≤ 365 ∧ (year < 3 → rest < 365) :=
    ⟨min (s / 365) 3, s - 365 * min (s / 365) 3, by omega⟩
  exact ⟨century, fourth, year, rest, by omega, hcentury, hfourth, hyear, hrest.1, hr.2, hrest.2⟩

theorem daysBefore_parts {century fourth year : Nat} (hfourth : fourth ≤ 24) (hyear : year ≤ 3) :
    daysBefore (100 * century + 4 * fourth + year) =
      36524 * century + 1461 * fourth + 365 * year := by
  unfold daysBefore
  omega

/-- **A day falls into its year.** -/
theorem yearOfSpan_spec {day : Nat} (h : day ≤ 146096) :
    yearOfSpan day < 400 ∧ daysBefore (yearOfSpan day) ≤ day
      ∧ day ≤ daysBefore (yearOfSpan day) + 365 := by
  obtain ⟨century, fourth, year, rest, rfl, hcentury, hfourth, hyear, hrest, hlong, hshort⟩ :=
    exists_parts h
  have hyears : yearOfSpan (36524 * century + 1461 * fourth + (365 * year + rest)) =
      100 * century + 4 * fourth + year := by
    -- whether a leap day is counted too early cannot be seen but at the end of four years
    have hfourths : (36524 * century + 1461 * fourth + (365 * year + rest)) / 1460 =
        25 * century + fourth + (24 * century + fourth + (365 * year + rest)) / 1460 := by omega
    have hcenturies : (36524 * century + 1461 * fourth + (365 * year + rest)) / 36524 =
        century + (36524 * century + 1461 * fourth + (365 * year + rest)) / 146096 := by omega
    have hone : (24 * century + fourth + (365 * year + rest)) / 1460 ≤ 1 := by omega
    unfold yearOfSpan
    omega
  rw [hyears, daysBefore_parts hfourth hyear]
  omega

theorem dayOfSpan_spec (days : Int) :
    dayOfSpan days ≤ 146096
      ∧ (dayOfSpan days : Int) = days + 719468 - (days + 719468).fdiv 146097 * 146097 := by
  unfold dayOfSpan
  rw [Int.fdiv_eq_ediv_of_nonneg _ (by decide)]
  omega

theorem dayOfYear_le (days : Int) : dayOfYear days ≤ 365 := by
  have h := yearOfSpan_spec (dayOfSpan_spec days).1
  unfold dayOfYear
  omega

/-- **A later day falls into a later year, or on a later day of the same year.** -/
theorem marchYear_lt {a b : Int} (h : a < b) :
    marchYear a < marchYear b ∨ marchYear a = marchYear b ∧ dayOfYear a < dayOfYear b := by
  obtain ⟨ha, hadays⟩ := dayOfSpan_spec a
  obtain ⟨hb, hbdays⟩ := dayOfSpan_spec b
  have hayear := yearOfSpan_spec ha
  have hbyear := yearOfSpan_spec hb
  unfold marchYear dayOfYear
  by_cases hspan : (a + 719468).fdiv 146097 < (b + 719468).fdiv 146097
  · omega
  · have hsame : (a + 719468).fdiv 146097 = (b + 719468).fdiv 146097 := by
      rw [Int.fdiv_eq_ediv_of_nonneg _ (by decide), Int.fdiv_eq_ediv_of_nonneg _ (by decide)]
        at hspan ⊢
      omega
    have hmono : yearOfSpan (dayOfSpan a) ≤ yearOfSpan (dayOfSpan b) :=
      yearOfSpan_mono (by omega)
    by_cases hyear : yearOfSpan (dayOfSpan a) = yearOfSpan (dayOfSpan b)
    · rw [hyear] at hayear ⊢
      omega
    · omega

/-- A date comes before another one. -/
def Date.Precedes (a b : Date) : Prop :=
  a.year < b.year ∨ a.year = b.year ∧ (a.month < b.month ∨ a.month = b.month ∧ a.day < b.day)

theorem Date.ofMarch_spec (year : Int) {day : Nat} (h : day ≤ 365) :
    (ofMarch year day).month < 100 ∧ (ofMarch year day).day < 100 := by
  unfold ofMarch
  dsimp only
  split <;> omega

/-- Months are counted from March, where the year starts, to the next February. -/
theorem Date.ofMarch_precedes {year year' : Int} {day day' : Nat} (hday : day ≤ 365)
    (hday' : day' ≤ 365) (h : year < year' ∨ year = year' ∧ day < day') :
    (ofMarch year day).Precedes (ofMarch year' day') := by
  unfold Precedes ofMarch
  dsimp only
  have hmonths : (5 * day + 2) / 153 ≤ 11 := by omega
  have hmonths' : (5 * day' + 2) / 153 ≤ 11 := by omega
  repeat' split
  all_goals omega

/-- **Days in order have dates in order.** -/
theorem dateOf_precedes {a b : Int} (h : a < b) : (dateOf a).Precedes (dateOf b) :=
  Date.ofMarch_precedes (dayOfYear_le a) (dayOfYear_le b) (marchYear_lt h)

theorem year_dateOf_le {a b : Int} (h : a ≤ b) : (dateOf a).year ≤ (dateOf b).year := by
  rcases Int.lt_or_eq_of_le h with hlt | rfl
  · have := dateOf_precedes hlt
    unfold Date.Precedes at this
    omega
  · exact Int.le_refl _

/-! ## Digits -/

theorem toList_padded (width n : Nat) :
    (padded width n).toList =
      List.replicate (width - (Nat.toDigits 10 n).length) '0' ++ Nat.toDigits 10 n := by
  have hlength : (toString n).length = (Nat.toDigits 10 n).length := by
    rw [← String.length_toList, toList_toString]
  unfold padded
  rw [String.toList_append, String.toList_ofList, toList_toString, hlength]

/-- The last digit comes behind the others. -/
theorem toList_padded_succ {width : Nat} (h : 0 < width) (n : Nat) :
    (padded (width + 1) n).toList =
      (padded width (n / 10)).toList ++ [Nat.digitChar (n % 10)] := by
  rw [toList_padded, toList_padded]
  by_cases hn : n < 10
  · have hzero : n / 10 = 0 := by omega
    rw [hzero, Nat.toDigits_of_lt_base hn, Nat.mod_eq_of_lt hn]
    obtain ⟨width, rfl⟩ := Nat.exists_eq_succ_of_ne_zero (Nat.ne_of_gt h)
    simp [List.replicate_succ', Nat.toDigits_of_lt_base]
  · rw [Nat.toDigits_eq_if (by decide), if_neg hn, List.length_append, List.length_singleton,
      Nat.add_sub_add_right, List.append_assoc]

theorem length_padded {width n : Nat} (h : n < 10 ^ (width + 1)) :
    (padded (width + 1) n).toList.length = width + 1 := by
  induction width generalizing n with
  | zero =>
    have hn : n < 10 := h
    rw [toList_padded, Nat.toDigits_of_lt_base hn]
    rfl
  | succ width ih =>
    rw [Nat.pow_succ] at h
    rw [toList_padded_succ (Nat.succ_pos width), List.length_append, ih (by omega)]
    rfl

/-- Texts of one length decide if they differ, and otherwise what follows them. -/
theorem append_lt_append {a a' b b' : List Char} (hlength : a.length = a'.length)
    (h : a < a' ∨ a = a' ∧ b < b') : a ++ b < a' ++ b' := by
  induction a generalizing a' with
  | nil =>
    obtain rfl := List.length_eq_zero_iff.1 hlength.symm
    exact h.elim (fun h => absurd h (by simp)) And.right
  | cons c a ih =>
    obtain ⟨c', a', rfl⟩ := List.exists_cons_of_length_eq_add_one hlength.symm
    have hrest : a.length = a'.length := Nat.succ.inj hlength
    rw [List.cons_append, List.cons_append, List.cons_lt_cons_iff]
    rcases h with h | ⟨h, hb⟩
    · rcases List.cons_lt_cons_iff.1 h with hc | ⟨rfl, ha⟩
      · exact .inl hc
      · exact .inr ⟨rfl, ih hrest (.inl ha)⟩
    · obtain ⟨rfl, rfl⟩ := List.cons.inj h
      exact .inr ⟨rfl, ih rfl (.inr ⟨rfl, hb⟩)⟩

/-- **Numbers in order have digits in order.** -/
theorem padded_lt {width n m : Nat} (h : n < m) (hm : m < 10 ^ (width + 1)) :
    (padded (width + 1) n).toList < (padded (width + 1) m).toList := by
  have hdigit : ∀ d < 10, ∀ d' < 10, d < d' → Nat.digitChar d < Nat.digitChar d' := by decide
  induction width generalizing n m with
  | zero =>
    have hm : m < 10 := hm
    have hn : n < 10 := Nat.lt_trans h hm
    rw [toList_padded, toList_padded, Nat.toDigits_of_lt_base hn, Nat.toDigits_of_lt_base hm]
    exact List.cons_lt_cons_iff.2 (.inl (hdigit n hn m hm h))
  | succ width ih =>
    rw [Nat.pow_succ] at hm
    rw [toList_padded_succ (Nat.succ_pos width), toList_padded_succ (Nat.succ_pos width)]
    refine append_lt_append ?_ ?_
    · rw [length_padded (by omega), length_padded (by omega)]
    · by_cases htens : n / 10 = m / 10
      · refine .inr ⟨by rw [htens], List.cons_lt_cons_iff.2 (.inl ?_)⟩
        exact hdigit _ (by omega) _ (by omega) (by omega)
      · exact .inl (ih (by omega) (by omega))

/-- **A number in front decides if it differs, and otherwise what follows it.** -/
theorem padded_append_lt {width n m : Nat} {rest rest' : List Char}
    (hn : n < 10 ^ (width + 1)) (hm : m < 10 ^ (width + 1))
    (h : n < m ∨ n = m ∧ rest < rest') :
    (padded (width + 1) n).toList ++ rest < (padded (width + 1) m).toList ++ rest' := by
  refine append_lt_append ((length_padded hn).trans (length_padded hm).symm) ?_
  rcases h with h | ⟨rfl, h⟩
  · exact .inl (padded_lt h hm)
  · exact .inr ⟨rfl, h⟩

/-! ## Texts -/

/-- A time of the years that have four digits. -/
def FourDigits (seconds : Int) : Prop := -62167219200 ≤ seconds ∧ seconds ≤ 253402300799

instance (seconds : Int) : Decidable (FourDigits seconds) :=
  inferInstanceAs (Decidable (_ ∧ _))

/-- A date that can be written with four, two and two digits. -/
def Date.Fits (d : Date) : Prop := 0 ≤ d.year ∧ d.year ≤ 9999 ∧ d.month < 100 ∧ d.day < 100

/-- The date of a time. -/
def date (seconds : Int) : Date := dateOf (seconds.ediv 86400)

/-- The seconds of its day. -/
def secondOfDay (seconds : Int) : Nat := (seconds.emod 86400).toNat

/-- The time of the day as it is written. -/
def clock (second : Nat) : List Char :=
  (padded 2 (second / 3600)).toList
    ++ ':' :: ((padded 2 (second / 60 % 60)).toList ++ ':' :: (padded 2 (second % 60)).toList)

theorem fits_date {seconds : Int} (h : FourDigits seconds) : (date seconds).Fits := by
  obtain ⟨hlow, hhigh⟩ := h
  have hfirst : (dateOf (-719528)).year = 0 := by decide
  have hlast : (dateOf 2932896).year = 9999 := by decide
  have hdays : -719528 ≤ seconds / 86400 ∧ seconds / 86400 ≤ 2932896 := by omega
  exact ⟨hfirst ▸ year_dateOf_le hdays.1, hlast ▸ year_dateOf_le hdays.2,
    Date.ofMarch_spec _ (dayOfYear_le _)⟩

theorem toString_string (s : String) : toString s = s := rfl

theorem toText?_eq {seconds : Int} (h : earliest ≤ seconds) :
    ∃ text, toText? seconds = some text
      ∧ text.toList = (date seconds).toText.toList ++ ' ' :: clock (secondOfDay seconds) := by
  have hblank : " ".toList = [' '] := rfl
  have hcolon : ":".toList = [':'] := rfl
  unfold toText?
  rw [if_neg (Int.not_lt.2 h)]
  refine ⟨_, rfl, ?_⟩
  simp only [clock, date, secondOfDay, toString_string, String.toList_append, hblank, hcolon,
    List.append_assoc, List.cons_append, List.nil_append]

/-- A date of the years with four digits, in front of something. -/
theorem toList_date {d : Date} (h : 0 ≤ d.year) (rest : List Char) :
    d.toText.toList ++ rest =
      (padded 4 d.year.natAbs).toList
        ++ '-' :: ((padded 2 d.month).toList ++ '-' :: ((padded 2 d.day).toList ++ rest)) := by
  have hdash : "-".toList = ['-'] := rfl
  unfold Date.toText
  dsimp only
  rw [if_neg (Int.not_lt.2 h)]
  simp only [toString_string, String.toList_append, hdash, List.append_assoc, List.cons_append,
    List.nil_append]

theorem cons_lt_cons_self (c : Char) {l l' : List Char} (h : l < l') : c :: l < c :: l' :=
  List.cons_lt_cons_iff.2 (.inr ⟨rfl, h⟩)

theorem clock_lt {r r' : Nat} (h : r < r') (hr : r' < 86400) : clock r < clock r' := by
  unfold clock
  refine padded_append_lt (by omega) (by omega) ?_
  by_cases hhour : r / 3600 < r' / 3600
  · exact .inl hhour
  refine .inr ⟨by omega, cons_lt_cons_self _ (padded_append_lt (by omega) (by omega) ?_)⟩
  by_cases hminute : r / 60 % 60 < r' / 60 % 60
  · exact .inl hminute
  · exact .inr ⟨by omega, cons_lt_cons_self _ (padded_lt (by omega) (by omega))⟩

/-- **Dates in order have texts in order**, and one date leaves it to what follows. -/
theorem date_append_lt {a b : Date} (ha : a.Fits) (hb : b.Fits) {rest rest' : List Char}
    (h : a.Precedes b ∨ a = b ∧ rest < rest') :
    a.toText.toList ++ rest < b.toText.toList ++ rest' := by
  obtain ⟨hayear, hayear', hamonth, haday⟩ := ha
  obtain ⟨hbyear, hbyear', hbmonth, hbday⟩ := hb
  rw [toList_date hayear, toList_date hbyear]
  refine padded_append_lt (by omega) (by omega) ?_
  rcases h with (hyear | ⟨hyear, hmonth⟩) | ⟨rfl, hrest⟩
  · exact .inl (by omega)
  · refine .inr ⟨by omega, cons_lt_cons_self _ (padded_append_lt hamonth hbmonth ?_)⟩
    rcases hmonth with hmonth | ⟨hmonth, hday⟩
    · exact .inl hmonth
    · exact .inr ⟨hmonth, cons_lt_cons_self _ (padded_append_lt haday hbday (.inl hday))⟩
  · exact .inr ⟨rfl, cons_lt_cons_self _ (padded_append_lt hamonth hbmonth
      (.inr ⟨rfl, cons_lt_cons_self _ (padded_append_lt haday hbday (.inr ⟨rfl, hrest⟩))⟩))⟩

theorem text_lt {a b : Int} (ha : FourDigits a) (hb : FourDigits b) (h : a < b) :
    (date a).toText.toList ++ ' ' :: clock (secondOfDay a) <
      (date b).toText.toList ++ ' ' :: clock (secondOfDay b) := by
  refine date_append_lt (fits_date ha) (fits_date hb) ?_
  have hsecond : ∀ n : Int, (secondOfDay n : Int) = n - n / 86400 * 86400
      ∧ secondOfDay n < 86400 := by
    intro n
    have : (secondOfDay n : Int) = ((n % 86400).toNat : Int) := rfl
    omega
  by_cases hdays : a / 86400 < b / 86400
  · exact .inl (dateOf_precedes hdays)
  · have hday : a / 86400 = b / 86400 := by omega
    refine .inr ⟨congrArg dateOf hday, cons_lt_cons_self _ (clock_lt ?_ (hsecond b).2)⟩
    have := hsecond a
    have := hsecond b
    omega

/-- A year before the year 0 has a sign, which comes before all digits. -/
theorem text_lt_of_year_lt {d d' : Date} (h : d.year < 0) (h' : 0 ≤ d'.year)
    (rest rest' : List Char) : d.toText.toList ++ rest < d'.toText.toList ++ rest' := by
  have hsign : ∀ c, IsDigit c → '-' < c := by
    have hall : ∀ n < 10, '-' < Nat.digitChar n := by decide
    rintro c ⟨n, hn, rfl⟩
    exact hall n hn
  rw [toList_date h', toList_padded]
  cases hyear : List.replicate (4 - (Nat.toDigits 10 d'.year.natAbs).length) '0'
      ++ Nat.toDigits 10 d'.year.natAbs with
  | nil => exact absurd (List.append_eq_nil_iff.1 hyear).2 Nat.toDigits_ne_nil
  | cons c cs =>
    have hdash : "-".toList = ['-'] := rfl
    have hc : IsDigit c := by
      rcases List.mem_append.mp (hyear ▸ List.mem_cons_self (a := c) (l := cs)) with hc | hc
      · exact ⟨0, by decide, (List.mem_replicate.mp hc).2⟩
      · exact isDigit_of_mem_toDigits c hc
    unfold Date.toText
    dsimp only
    rw [if_pos h]
    simp only [toString_string, String.toList_append, hdash, List.append_assoc, List.cons_append,
      List.nil_append]
    exact List.cons_lt_cons_iff.2 (.inl (hsign c hc))

/-- **Times in order have texts in order**, as long as the later one is of a year with four digits. -/
theorem toText?_lt {a b : Int} (ha : earliest ≤ a) (hb : FourDigits b) (h : a < b) :
    ∃ text text', toText? a = some text ∧ toText? b = some text' ∧ text < text' := by
  obtain ⟨text, htext, hlist⟩ := toText?_eq ha
  obtain ⟨text', htext', hlist'⟩ := toText?_eq (Int.le_trans ha (Int.le_of_lt h))
  refine ⟨text, text', htext, htext', String.lt_iff.2 ?_⟩
  rw [hlist, hlist']
  by_cases hlow : -62167219200 ≤ a
  · exact text_lt ⟨hlow, Int.le_trans (Int.le_of_lt h) hb.2⟩ hb h
  · have hbefore : (dateOf (-719529)).year = -1 := by decide
    have hdays : a / 86400 ≤ -719529 := by omega
    have hyear : (date a).year ≤ -1 := hbefore ▸ year_dateOf_le hdays
    exact text_lt_of_year_lt (by omega) (fits_date hb).1 _ _

end Treasury.Time
