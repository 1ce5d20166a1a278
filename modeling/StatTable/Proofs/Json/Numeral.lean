import StatTable.Json.Token
import StatTable.Proofs.Binary64.Shortest
import StatTable.Json.Printer

set_option autoImplicit false

namespace StatTable.Json

def Digits (cs : List Char) : Prop := ∀ c ∈ cs, isDigit c = true

-- A text at whose start no number goes on.
def Stops (p : Char → Bool) (cs : List Char) : Prop := ∀ c rest, cs = c :: rest → p c = false

theorem stops_nil (p : Char → Bool) : Stops p [] := by
  intro c rest same
  cases same

theorem stops_cons (p : Char → Bool) (c : Char) (rest : List Char) (stop : p c = false) :
    Stops p (c :: rest) := by
  intro d tail same
  cases same
  exact stop

theorem take_while_stops (p : Char → Bool) (cs rest : List Char) (all : ∀ c ∈ cs, p c = true)
    (stop : Stops p rest) : (cs ++ rest).takeWhile p = cs ∧ (cs ++ rest).dropWhile p = rest := by
  rw [List.takeWhile_append_of_pos all, List.dropWhile_append_of_pos all]
  cases rest with
  | nil => simp
  | cons c tail => simp [stop c tail rfl]

theorem digits_append (cs ds : List Char) (left : Digits cs) (right : Digits ds) :
    Digits (cs ++ ds) := by
  intro c member
  cases List.mem_append.mp member with
  | inl first => exact left c first
  | inr second => exact right c second

theorem digits_zeros (count : Nat) : Digits (Binary64.zeros count) := by
  intro c member
  rw [List.eq_of_mem_replicate member]
  decide

theorem digits_to_digits (n : Nat) : Digits (Nat.toDigits 10 n) := by
  intro c member
  have digit : c.isDigit = true := Nat.isDigit_of_mem_toDigits (by decide) (by decide) member
  rw [Char.isDigit_iff_toNat] at digit
  rw [isDigit, digit?, if_pos ⟨Char.le_def.mpr digit.1, Char.le_def.mpr digit.2⟩]
  rfl

theorem digit_value (c : Char) (digit : isDigit c = true) :
    digit? c = some (c.toNat - '0'.toNat) := by
  rw [isDigit, digit?] at digit
  rw [digit?]
  split at digit
  · rename_i range
    rw [if_pos range]
  · cases digit

theorem digits_of_cons (c : Char) (cs : List Char) (digit : isDigit c = true) :
    digitsOf (c :: cs) = (c.toNat - '0'.toNat) :: digitsOf cs := by
  rw [digitsOf, List.filterMap_cons_some (digit_value c digit)]
  rfl

theorem digits_of_append (cs ds : List Char) : digitsOf (cs ++ ds) = digitsOf cs ++ digitsOf ds :=
  List.filterMap_append

theorem digits_of_length (cs : List Char) (digits : Digits cs) :
    (digitsOf cs).length = cs.length := by
  induction cs with
  | nil => rfl
  | cons c cs ih =>
      rw [digits_of_cons c cs (digits c List.mem_cons_self), List.length_cons, List.length_cons,
        ih fun d member => digits d (List.mem_cons_of_mem _ member)]

theorem nat_of_digits_chars (cs : List Char) (digits : Digits cs) :
    natOfDigits (digitsOf cs) = Nat.ofDigitChars 10 cs 0 := by
  have folded : ∀ start : Nat,
      (digitsOf cs).foldl (fun n d => 10 * n + d) start = Nat.ofDigitChars 10 cs start := by
    induction cs with
    | nil => exact fun _ => rfl
    | cons c cs ih =>
        intro start
        rw [digits_of_cons c cs (digits c List.mem_cons_self), List.foldl_cons,
          Nat.ofDigitChars_cons]
        exact ih (fun d member => digits d (List.mem_cons_of_mem _ member)) _
  exact folded 0

theorem nat_of_to_digits (n : Nat) : natOfDigits (digitsOf (Nat.toDigits 10 n)) = n := by
  rw [nat_of_digits_chars _ (digits_to_digits n), Nat.ofDigitChars_ten_toDigits]

theorem to_digits_head (n : Nat) (positive : 0 < n) : (Nat.toDigits 10 n).head? ≠ some '0' := by
  induction n using Nat.strongRecOn with
  | ind n ih =>
      rw [Nat.toDigits_eq_if (by decide)]
      by_cases single : n < 10
      · rw [if_pos single]
        intro zero
        have same : Nat.digitChar n = '0' := Option.some.inj zero
        rw [Nat.digitChar_eq_zero] at same
        omega
      · rw [if_neg single, List.head?_append_of_ne_nil _ Nat.toDigits_ne_nil]
        exact ih (n / 10) (by omega) (by omega)

theorem take_digits_stops (cs rest : List Char) (digits : Digits cs) (stop : Stops isDigit rest) :
    takeDigits (cs ++ rest) = (digitsOf cs, rest) := by
  have split := take_while_stops isDigit cs rest digits stop
  rw [takeDigits, split.1, split.2]

def Numeral.amount (numeral : Numeral) : ℚ :=
  natOfDigits (numeral.whole ++ numeral.fraction.getD []) *
    (10 : ℚ) ^ (numeral.exponent.getD 0 - (numeral.fraction.getD []).length)

def Numeral.isPlain (numeral : Numeral) : Bool :=
  numeral.fraction.isNone && numeral.exponent.isNone

def signed (negative : Bool) (cs : List Char) : List Char := if negative then '-' :: cs else cs

structure Leads (cs : List Char) : Prop where
  digits : Digits cs
  some_digit : cs ≠ []
  no_zero : cs = ['0'] ∨ cs.head? ≠ some '0'

theorem leads_to_digits (n : Nat) : Leads (Nat.toDigits 10 n) where
  digits := digits_to_digits n
  some_digit := Nat.toDigits_ne_nil
  no_zero := by
    by_cases zero : n = 0
    · exact .inl (zero ▸ rfl)
    · exact .inr (to_digits_head n (Nat.pos_of_ne_zero zero))

def readWhole (negative : Bool) : List Nat × List Char → Option Numeral
  | ([], _) => none
  | (0 :: _ :: _, _) => none
  | (digits, rest) => readFraction negative digits rest

theorem read_signed (negative : Bool) (c : Char) (cs : List Char) (unsigned : c ≠ '-') :
    Numeral.read (signed negative (c :: cs)) = readWhole negative (takeDigits (c :: cs)) := by
  cases negative with
  | true => rfl
  | false =>
      rw [signed, if_neg (by decide), Numeral.read]
      · rfl
      · intro rest same
        exact unsigned (List.cons.inj same).1

theorem read_whole_leads (negative : Bool) (first : Nat) (digits : List Nat) (rest : List Char)
    (lead : first ≠ 0 ∨ digits = []) :
    readWhole negative (first :: digits, rest) = readFraction negative (first :: digits) rest := by
  cases lead with
  | inl nonzero =>
      cases first with
      | zero => exact absurd rfl nonzero
      | succ n => rfl
  | inr single =>
      subst single
      cases first with
      | zero => rfl
      | succ n => rfl

theorem digit_zero (c : Char) (digit : isDigit c = true) (zero : c.toNat - '0'.toNat = 0) :
    c = '0' := by
  rw [isDigit, digit?] at digit
  split at digit
  · rename_i range
    have low : '0'.toNat ≤ c.toNat := range.1
    exact Char.toNat_inj.mp (by omega)
  · cases digit

theorem read_leads (negative : Bool) (cs rest : List Char) (leads : Leads cs)
    (stop : Stops isDigit rest) :
    Numeral.read (signed negative (cs ++ rest)) = readFraction negative (digitsOf cs) rest := by
  obtain ⟨digits, nonempty, zero⟩ := leads
  cases cs with
  | nil => exact absurd rfl nonempty
  | cons c tail =>
      have first : isDigit c = true := digits c List.mem_cons_self
      have unsigned : c ≠ '-' := by
        rintro rfl
        exact absurd first (by decide)
      have lead : c.toNat - '0'.toNat ≠ 0 ∨ digitsOf tail = [] := by
        cases zero with
        | inl single =>
            obtain ⟨-, rfl⟩ := List.cons.inj single
            exact .inr rfl
        | inr other =>
            refine .inl fun none => other ?_
            rw [digit_zero c first none]
            rfl
      have taken := take_digits_stops (c :: tail) rest digits stop
      rw [List.cons_append] at taken ⊢
      rw [read_signed negative c (tail ++ rest) unsigned, taken, digits_of_cons c tail first]
      exact read_whole_leads negative _ _ rest lead

theorem read_point (negative : Bool) (whole : List Nat) (cs rest : List Char) (digits : Digits cs)
    (nonempty : cs ≠ []) (stop : Stops isDigit rest) :
    readFraction negative whole ('.' :: cs ++ rest) =
      readTail negative whole (some (digitsOf cs)) rest := by
  rw [List.cons_append, readFraction, take_digits_stops cs rest digits stop]
  cases cs with
  | nil => exact absurd rfl nonempty
  | cons c tail => rw [digits_of_cons c tail (digits c List.mem_cons_self)]

theorem read_unsigned_exponent (cs : List Char) (negative : Bool) (n : Nat)
    (sign : readSign cs = (negative, Nat.toDigits 10 n)) :
    readExponent cs = some (if negative then -(n : Int) else n) := by
  have digits := digits_to_digits n
  have taken := take_digits_stops _ [] digits (stops_nil _)
  rw [List.append_nil] at taken
  have nonempty : digitsOf (Nat.toDigits 10 n) ≠ [] := by
    intro none
    have length := digits_of_length _ digits
    rw [none, List.length_nil] at length
    exact Nat.toDigits_ne_nil (List.length_eq_zero_iff.mp length.symm)
  rw [readExponent, sign]
  dsimp only
  rw [taken]
  split
  · rename_i none
    exact absurd (Prod.mk.inj none).1 nonempty
  · rename_i same
    rw [← (Prod.mk.inj same).1, nat_of_to_digits n]
  · rename_i other
    exact absurd rfl (other _)

theorem read_exponent_digits (exponent : Int) :
    readExponent ((if exponent < 0 then ['-'] else ['+']) ++ Nat.toDigits 10 exponent.natAbs) =
      some exponent := by
  by_cases minus : exponent < 0
  · rw [if_pos minus, read_unsigned_exponent _ true exponent.natAbs rfl, if_pos rfl]
    congr 1
    omega
  · rw [if_neg minus, read_unsigned_exponent _ false exponent.natAbs rfl, if_neg (by decide)]
    congr 1
    omega

theorem read_tail_exponent (negative : Bool) (whole : List Nat) (fraction : Option (List Nat))
    (exponent : Int) :
    readTail negative whole fraction
      ('e' :: ((if exponent < 0 then ['-'] else ['+']) ++ Nat.toDigits 10 exponent.natAbs)) =
      some ⟨negative, whole, fraction, some exponent⟩ := by
  rw [readTail, if_pos (.inl rfl), read_exponent_digits]
  rfl

theorem read_integer (n : Int) :
    ∃ numeral, Numeral.read (Text.decimalChars n) = some numeral ∧
      numeral.negative = decide (n < 0) ∧ natOfDigits numeral.whole = n.natAbs ∧
      numeral.isPlain = true := by
  have chars : Text.decimalChars n =
      signed (decide (n < 0)) (Nat.toDigits 10 n.natAbs ++ []) := by
    rw [Text.decimalChars, signed, List.append_nil]
    simp only [decide_eq_true_eq]
  refine ⟨⟨decide (n < 0), digitsOf (Nat.toDigits 10 n.natAbs), none, none⟩, ?_, rfl,
    nat_of_to_digits _, rfl⟩
  rw [chars, read_leads _ _ _ (leads_to_digits _) (stops_nil _)]
  rfl

theorem integer_chars_injective (m n : Int) (same : Text.decimalChars m = Text.decimalChars n) :
    m = n := by
  obtain ⟨left, leftRead, leftSign, leftDigits, _⟩ := read_integer m
  obtain ⟨right, rightRead, rightSign, rightDigits, _⟩ := read_integer n
  have equal : left = right := by
    rw [same, rightRead] at leftRead
    exact (Option.some.inj leftRead).symm
  subst equal
  have sign : decide (m < 0) = decide (n < 0) := leftSign.symm.trans rightSign
  have magnitude : m.natAbs = n.natAbs := leftDigits.symm.trans rightDigits
  have sides : m < 0 ↔ n < 0 := decide_eq_decide.mp sign
  omega

-- A text that reads as a number of the given sign and amount, written with a fraction or an
-- exponent.
def ReadsAs (negative : Bool) (cs : List Char) (amount : ℚ) : Prop :=
  ∃ numeral, Numeral.read (signed negative cs) = some numeral ∧ numeral.negative = negative ∧
    numeral.isPlain = false ∧ numeral.amount = amount

theorem amount_of_chars (negative : Bool) (whole fraction : List Char) (exponent : Option Int)
    (wholeDigits : Digits whole) (fractionDigits : Digits fraction) :
    Numeral.amount ⟨negative, digitsOf whole, some (digitsOf fraction), exponent⟩ =
      Nat.ofDigitChars 10 (whole ++ fraction) 0 *
        (10 : ℚ) ^ (exponent.getD 0 - fraction.length) := by
  rw [Numeral.amount, Option.getD_some, ← digits_of_append, digits_of_length _ fractionDigits,
    nat_of_digits_chars _ (digits_append _ _ wholeDigits fractionDigits)]

theorem point_stops (cs : List Char) : Stops isDigit ('.' :: cs) :=
  stops_cons _ _ _ (by decide)

theorem reads_fraction (negative : Bool) (whole fraction : List Char) (leads : Leads whole)
    (digits : Digits fraction) (nonempty : fraction ≠ []) :
    ReadsAs negative (whole ++ '.' :: fraction)
      (Nat.ofDigitChars 10 (whole ++ fraction) 0 * (10 : ℚ) ^ (-(fraction.length : Int))) := by
  refine ⟨⟨negative, digitsOf whole, some (digitsOf fraction), none⟩, ?_, rfl, rfl, ?_⟩
  · have tail := read_point negative (digitsOf whole) fraction [] digits nonempty (stops_nil _)
    rw [List.append_nil] at tail
    rw [read_leads negative whole _ leads (point_stops _), tail]
    rfl
  · rw [amount_of_chars negative whole fraction none leads.digits digits, Option.getD_none,
      zero_sub]

theorem leads_append (cs ds : List Char) (leads : Leads cs) (nonzero : cs.head? ≠ some '0')
    (digits : Digits ds) : Leads (cs ++ ds) where
  digits := digits_append cs ds leads.digits digits
  some_digit := List.append_ne_nil_of_left_ne_nil leads.some_digit ds
  no_zero := by
    right
    rw [List.head?_append_of_ne_nil _ leads.some_digit]
    exact nonzero

theorem leads_take (cs : List Char) (count : Nat) (leads : Leads cs)
    (nonzero : cs.head? ≠ some '0') : Leads (cs.take (count + 1)) where
  digits := fun c member => leads.digits c (List.mem_of_mem_take member)
  some_digit := by
    intro none
    cases cs with
    | nil => exact leads.some_digit rfl
    | cons c rest => cases none
  no_zero := by
    right
    cases cs with
    | nil => exact nonzero
    | cons c rest => exact nonzero

theorem zero_leads : Leads ['0'] where
  digits := digits_zeros 1
  some_digit := by decide
  no_zero := .inl rfl

theorem reads_positional (negative : Bool) (cs : List Char) (leading : Int) (leads : Leads cs)
    (nonzero : cs.head? ≠ some '0') :
    ReadsAs negative (Binary64.positional true cs leading)
      (Nat.ofDigitChars 10 cs 0 * (10 : ℚ) ^ (leading + 1 - cs.length)) := by
  have length : 0 < cs.length := List.length_pos_iff.mpr leads.some_digit
  rw [Binary64.positional]
  by_cases small : leading < 0
  · rw [if_pos small]
    have reads := reads_fraction negative ['0'] (Binary64.zeros (-leading - 1).toNat ++ cs)
      zero_leads (digits_append _ _ (digits_zeros _) leads.digits)
      (List.append_ne_nil_of_right_ne_nil _ leads.some_digit)
    have value : Nat.ofDigitChars 10 (['0'] ++ (Binary64.zeros (-leading - 1).toNat ++ cs)) 0 =
        Nat.ofDigitChars 10 cs 0 := by
      rw [← List.append_assoc, Nat.ofDigitChars_append, Nat.ofDigitChars_append, Binary64.zeros,
        Nat.ofDigitChars_replicate_zero]
      rfl
    have places : -((Binary64.zeros (-leading - 1).toNat ++ cs).length : Int) =
        leading + 1 - cs.length := by
      rw [List.length_append, Binary64.zeros, List.length_replicate]
      omega
    rw [value, places] at reads
    exact reads
  · rw [if_neg small]
    dsimp only
    by_cases short : cs.length ≤ leading.toNat + 1
    · rw [if_pos short, if_pos rfl]
      generalize count : leading.toNat + 1 - cs.length = zeros
      have reads := reads_fraction negative (cs ++ Binary64.zeros zeros) ['0']
        (leads_append _ _ leads nonzero (digits_zeros _)) (digits_zeros 1) (by decide)
      have value : Nat.ofDigitChars 10 (cs ++ Binary64.zeros zeros ++ ['0']) 0 =
          10 ^ zeros * Nat.ofDigitChars 10 cs 0 * 10 := by
        rw [Nat.ofDigitChars_append, Nat.ofDigitChars_append, Binary64.zeros,
          Nat.ofDigitChars_replicate_zero, Nat.ofDigitChars_cons, Nat.ofDigitChars_nil]
        have none : '0'.toNat - '0'.toNat = 0 := rfl
        omega
      have places : leading + 1 - cs.length = (zeros : Int) := by omega
      rw [value] at reads
      rw [places, zpow_natCast]
      convert reads using 1
      push_cast
      rw [List.length_singleton, Nat.cast_one, zpow_neg_one]
      ring
    · rw [if_neg short]
      have reads := reads_fraction negative (cs.take (leading.toNat + 1))
        (cs.drop (leading.toNat + 1)) (leads_take _ _ leads nonzero)
        (fun c member => leads.digits c (List.mem_of_mem_drop member))
        (by
          intro none
          have dropped := List.drop_eq_nil_iff.mp none
          omega)
      have places : -((cs.drop (leading.toNat + 1)).length : Int) = leading + 1 - cs.length := by
        rw [List.length_drop]
        omega
      rw [List.take_append_drop, places] at reads
      exact reads

theorem exponent_stops (cs : List Char) : Stops isDigit ('e' :: cs) :=
  stops_cons _ _ _ (by decide)

theorem reads_scientific (negative : Bool) (cs : List Char) (leading : Int) (leads : Leads cs)
    (nonzero : cs.head? ≠ some '0') :
    ReadsAs negative (Binary64.scientific "+" cs leading)
      (Nat.ofDigitChars 10 cs 0 * (10 : ℚ) ^ (leading + 1 - cs.length)) := by
  have start : cs.take 1 ++ cs.drop 1 = cs := List.take_append_drop 1 cs
  have digits : Digits (cs.drop 1) := fun c member => leads.digits c (List.mem_of_mem_drop member)
  have first := leads_take cs 0 leads nonzero
  have length : 0 < cs.length := List.length_pos_iff.mpr leads.some_digit
  have tail (fraction : Option (List Nat)) :=
    read_tail_exponent negative (digitsOf (cs.take 1)) fraction leading
  rw [Binary64.scientific]
  have plus : "+".toList = ['+'] := rfl
  rw [plus, List.append_assoc, List.append_assoc]
  by_cases single : cs.drop 1 = []
  · rw [if_pos single, List.nil_append, List.cons_append]
    refine ⟨⟨negative, digitsOf (cs.take 1), none, some leading⟩, ?_, rfl, rfl, ?_⟩
    · rw [read_leads negative _ _ first (exponent_stops _)]
      exact tail none
    · rw [single, List.append_nil] at start
      have one : cs.length = 1 := by
        have dropped := List.drop_eq_nil_iff.mp single
        omega
      rw [Numeral.amount, start, one]
      simp only [Option.getD_none, Option.getD_some, List.append_nil, List.length_nil]
      rw [nat_of_digits_chars _ leads.digits]
      congr 2
      omega
  · rw [if_neg single, List.cons_append, List.cons_append]
    refine ⟨⟨negative, digitsOf (cs.take 1), some (digitsOf (cs.drop 1)), some leading⟩, ?_, rfl,
      rfl, ?_⟩
    · rw [read_leads negative _ _ first (point_stops _), ← List.cons_append,
        read_point negative _ _ _ digits single (exponent_stops _)]
      exact tail _
    · rw [amount_of_chars negative _ _ _ first.digits digits, start, Option.getD_some,
        List.length_drop]
      congr 2
      omega

def decimalLeading (d : Binary64.Decimal) : Int :=
  d.exponent + (Nat.toDigits 10 d.digits).length - 1

def decimalText (d : Binary64.Decimal) : List Char :=
  if Binary64.isMiddling (decimalLeading d) then
    Binary64.positional true (Nat.toDigits 10 d.digits) (decimalLeading d)
  else Binary64.scientific "+" (Nat.toDigits 10 d.digits) (decimalLeading d)

theorem reads_decimal (negative : Bool) (d : Binary64.Decimal) (digits : 0 < d.digits) :
    ReadsAs negative (decimalText d) d.amount := by
  have head := to_digits_head _ digits
  have leads := leads_to_digits d.digits
  have value : d.amount = Nat.ofDigitChars 10 (Nat.toDigits 10 d.digits) 0 *
      (10 : ℚ) ^ (decimalLeading d + 1 - (Nat.toDigits 10 d.digits).length) := by
    rw [Nat.ofDigitChars_ten_toDigits, Binary64.Decimal.amount, decimalLeading]
    congr 2
    omega
  rw [value, decimalText]
  split
  · exact reads_positional negative _ _ leads head
  · exact reads_scientific negative _ _ leads head

theorem magnitude_text (rank : Nat) (positive : 0 < rank) :
    Binary64.magnitudeChars .json rank = decimalText (Binary64.shortest .even rank) := by
  have tie : Binary64.Layout.json.tie = .even := rfl
  rw [Binary64.magnitudeChars, if_neg (Nat.ne_of_gt positive), tie]
  generalize Binary64.shortest .even rank = d
  rfl

theorem reads_magnitude (negative : Bool) (rank : Nat) (positive : 0 < rank) :
    ReadsAs negative (Binary64.magnitudeChars .json rank)
      (Binary64.shortest .even rank).amount := by
  rw [magnitude_text rank positive]
  exact reads_decimal negative _ (Binary64.shortest_digits_pos .even rank positive)

theorem reads_zero (negative : Bool) :
    ReadsAs negative (Binary64.magnitudeChars .json 0) 0 := by
  have reads := reads_fraction negative ['0'] ['0'] zero_leads (digits_zeros 1) (by decide)
  have value : Nat.ofDigitChars 10 (['0'] ++ ['0']) 0 = 0 := rfl
  rw [value, Nat.cast_zero, zero_mul] at reads
  exact reads

theorem amount_pos (d : Binary64.Decimal) (digits : 0 < d.digits) : 0 < d.amount := by
  have cast : (0 : ℚ) < d.digits := by exact_mod_cast digits
  rw [Binary64.Decimal.amount]
  positivity

theorem magnitude_amount_pos (rank : Nat) (positive : 0 < rank) :
    0 < (Binary64.shortest .even rank).amount :=
  amount_pos _ (Binary64.shortest_digits_pos .even rank positive)

theorem reads_unique (left right : Bool) (cs ds : List Char) (amount other : ℚ)
    (first : ReadsAs left cs amount) (second : ReadsAs right ds other)
    (same : signed left cs = signed right ds) : left = right ∧ amount = other := by
  obtain ⟨one, oneRead, oneSign, -, oneAmount⟩ := first
  obtain ⟨two, twoRead, twoSign, -, twoAmount⟩ := second
  rw [same, twoRead] at oneRead
  obtain rfl := Option.some.inj oneRead
  exact ⟨oneSign.symm.trans twoSign, oneAmount.symm.trans twoAmount⟩

def magnitudeAmount (rank : Nat) : ℚ :=
  if rank = 0 then 0 else (Binary64.shortest .even rank).amount

theorem magnitude_reads (negative : Bool) (rank : Nat) :
    ReadsAs negative (Binary64.magnitudeChars .json rank) (magnitudeAmount rank) := by
  by_cases zero : rank = 0
  · rw [zero, magnitudeAmount, if_pos rfl]
    exact reads_zero negative
  · rw [magnitudeAmount, if_neg zero]
    exact reads_magnitude negative rank (Nat.pos_of_ne_zero zero)

theorem magnitude_amount_injective (left right : Nat)
    (same : magnitudeAmount left = magnitudeAmount right) : left = right := by
  rw [magnitudeAmount, magnitudeAmount] at same
  by_cases leftZero : left = 0
  · by_cases rightZero : right = 0
    · rw [leftZero, rightZero]
    · rw [if_pos leftZero, if_neg rightZero] at same
      exact absurd same (magnitude_amount_pos right (Nat.pos_of_ne_zero rightZero)).ne
  · by_cases rightZero : right = 0
    · rw [if_neg leftZero, if_pos rightZero] at same
      exact absurd same (magnitude_amount_pos left (Nat.pos_of_ne_zero leftZero)).ne'
    · rw [if_neg leftZero, if_neg rightZero] at same
      exact Binary64.shortest_injective .even left right (Nat.pos_of_ne_zero leftZero)
        (Nat.pos_of_ne_zero rightZero) same

def Number.IsFinite : Number → Prop
  | .integer _ => True
  | .binary x => x.isFinite = true

theorem binary_chars (x : Binary64) (finite : x.isFinite = true) :
    (Number.binary x).chars = signed x.negative (Binary64.magnitudeChars .json x.rank) := by
  have number : x.isNaN = false := by
    rw [Binary64.isFinite, decide_eq_true_iff] at finite
    rw [Binary64.isNaN, decide_eq_false_iff_not]
    omega
  rw [Number.chars, Binary64.text, number, if_neg (by decide), if_pos finite]
  exact String.toList_ofList

theorem binary_reads (x : Binary64) (finite : x.isFinite = true) :
    ∃ numeral, Numeral.read (Number.binary x).chars = some numeral ∧
      numeral.negative = x.negative ∧ numeral.isPlain = false ∧
      numeral.amount = magnitudeAmount x.rank := by
  rw [binary_chars x finite]
  exact magnitude_reads x.negative x.rank

theorem binary_chars_injective (x y : Binary64) (xFinite : x.isFinite = true)
    (yFinite : y.isFinite = true) (same : (Number.binary x).chars = (Number.binary y).chars) :
    x = y := by
  rw [binary_chars x xFinite, binary_chars y yFinite] at same
  have equal := reads_unique _ _ _ _ _ _ (magnitude_reads x.negative x.rank)
    (magnitude_reads y.negative y.rank) same
  have rank := magnitude_amount_injective _ _ equal.2
  cases x with
  | mk negative rankX bound =>
      cases y with
      | mk other rankY bound' =>
          obtain rfl : negative = other := equal.1
          obtain rfl : rankX = rankY := rank
          rfl

theorem integer_not_binary (n : Int) (x : Binary64) (finite : x.isFinite = true) :
    (Number.integer n).chars ≠ (Number.binary x).chars := by
  intro same
  obtain ⟨plain, plainRead, -, -, isPlain⟩ := read_integer n
  obtain ⟨pointed, pointedRead, -, notPlain, -⟩ := binary_reads x finite
  rw [← same, Number.chars, plainRead] at pointedRead
  obtain rfl := Option.some.inj pointedRead
  rw [isPlain] at notPlain
  cases notPlain

theorem number_chars_injective (a b : Number) (aFinite : a.IsFinite) (bFinite : b.IsFinite)
    (same : a.chars = b.chars) : a = b := by
  cases a with
  | integer m =>
      cases b with
      | integer n => rw [integer_chars_injective m n same]
      | binary y => exact absurd same (integer_not_binary m y bFinite)
  | binary x =>
      cases b with
      | integer n => exact absurd same.symm (integer_not_binary n x aFinite)
      | binary y => rw [binary_chars_injective x y aFinite bFinite same]

end StatTable.Json
