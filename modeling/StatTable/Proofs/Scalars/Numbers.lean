import StatTable.Proofs.Binary64.Exact
import StatTable.Proofs.Json.Standard
import StatTable.Proofs.Words

/-
What numbers are held as. A number that is an integer of machine size is held as it is, and every
other one as the binary64 number it is read as, so that no value changes. There is one exception: a
number that is read as 2^63 is held as the integer before it.
-/

set_option autoImplicit false

namespace StatTable

namespace Json.Number

def exact : Number → ℚ
  | .integer n => n
  | .binary x => x.exact

-- A number that does not fit a word and is read as the first integer above all words.
def ReachesLimit (n : Number) : Prop := n.toInt64? = none ∧ n.toBinary64.exact = 2 ^ 63

-- Numbers of one value, or too large for a word and read as one binary64 number.
def ReadAlike (m n : Number) : Prop :=
  m.exact = n.exact ∨ m.toInt64? = none ∧ n.toInt64? = none ∧ m.toBinary64 = n.toBinary64

theorem ReadAlike.symm (m n : Number) (alike : m.ReadAlike n) : n.ReadAlike m := by
  rcases alike with same | ⟨large, large', same⟩
  · exact .inl same.symm
  · exact .inr ⟨large', large, same.symm⟩

theorem word_exact (n : Number) (i : Int64) (fits : n.toInt64? = some i) : n.exact = i.toInt := by
  cases n with
  | integer n => rw [exact, word_value n i fits]
  | binary x => cases fits

theorem standard_finite (n : Number) (standard : n.IsStandard) : n.toBinary64.isFinite = true := by
  cases n with
  | integer n =>
      obtain ⟨low, high⟩ := standard
      exact Binary64.of_int_finite n (by omega)
  | binary x => exact standard

theorem rounded_beyond (n : Int) (standard : (Number.integer n).IsStandard)
    (large : (Number.integer n).toInt64? = none) :
    ∃ whole, (Binary64.ofInt n).toInt? = some whole ∧ 2 ^ 63 ≤ n ∧ 2 ^ 63 ≤ whole := by
  obtain ⟨low, high⟩ := standard
  have above : 2 ^ 63 ≤ n := ((word_none_iff n).mp large).resolve_left (by omega)
  obtain ⟨whole, rounds⟩ := Binary64.of_int_whole n (by omega)
  exact ⟨whole, rounds, above,
    Binary64.of_int_whole_mono _ _ _ _ above Binary64.limit_whole rounds⟩

theorem exact_of_rounded (n : Number) (standard : n.IsStandard) (large : n.toInt64? = none)
    (i : Int) (rounds : n.toBinary64.toInt? = some i) :
    (i < 2 ^ 63 → n.exact = i) ∧ (i = 2 ^ 63 → 2 ^ 63 ≤ n.exact) := by
  cases n with
  | integer n =>
      obtain ⟨whole, found, above, beyond⟩ := rounded_beyond n standard large
      obtain rfl : whole = i := Option.some.inj (found.symm.trans rounds)
      refine ⟨fun below => absurd beyond (by omega), fun _ => ?_⟩
      rw [exact]
      exact_mod_cast above
  | binary x =>
      have value : x.exact = i := ((Binary64.to_int_iff x i).mp rounds).2
      refine ⟨fun _ => value, fun limit => ?_⟩
      rw [exact, value, limit]
      norm_num

end Json.Number

namespace Scalar

-- A scalar that holds a number as it is, or else as the binary64 number it is read as.
inductive Keeps : Json.Number → Scalar → Prop
  | own (n : Json.Number) (i : Int64) : n.exact = i.toInt → Keeps n (.integer i)
  | rounded (n : Json.Number) (i : Int64) : n.toInt64? = none → n.toBinary64.exact = i.toInt →
      Keeps n (.integer i)
  | binary (n : Json.Number) : n.toInt64? = none → (∀ i : Int64, n.toBinary64.exact ≠ i.toInt) →
      Keeps n (.binary n.toBinary64)

inductive Holds (n : Json.Number) : Scalar → Prop
  | word (i : Int64) : n.exact = i.toInt → ¬ n.ReachesLimit → Holds n (.integer i)
  | limit : n.ReachesLimit → 2 ^ 63 ≤ n.exact → Holds n (.integer Int64.maxValue)
  | binary : n.toInt64? = none → ¬ n.ReachesLimit → (∀ i : Int64, n.toBinary64.exact ≠ i.toInt) →
      Holds n (.binary n.toBinary64)

theorem of_binary_word (x : Binary64) (k : Int) (whole : x.toInt? = some k) (low : -2 ^ 63 ≤ k)
    (high : k < 2 ^ 63) : ∃ i : Int64, ofBinary64 x = .integer i ∧ i.toInt = k := by
  have within : min k 9223372036854775807 = k := by omega
  refine ⟨Int64.ofInt k, ?_, (word_in_range k low (by omega)).2⟩
  rw [ofBinary64, whole]
  dsimp only
  rw [if_pos (by omega), within]

theorem of_binary_limit (x : Binary64) (whole : x.toInt? = some (2 ^ 63)) :
    ofBinary64 x = .integer Int64.maxValue := by
  rw [ofBinary64, whole]
  rfl

theorem of_binary_beyond (x : Binary64) (k : Int) (whole : x.toInt? = some k)
    (beyond : k < -2 ^ 63 ∨ 2 ^ 63 < k) : ofBinary64 x = .binary x := by
  rw [ofBinary64, whole]
  exact if_neg (by omega)

theorem rounded_holds (n : Json.Number) (standard : n.IsStandard) (large : n.toInt64? = none) :
    Holds n (ofBinary64 n.toBinary64) := by
  have finite := n.standard_finite standard
  cases whole : n.toBinary64.toInt? with
  | none =>
      have apart (i : Int) : n.toBinary64.exact ≠ i := fun same => by
        rw [(Binary64.to_int_iff _ i).mpr ⟨finite, same⟩] at whole
        cases whole
      rw [ofBinary64, whole]
      exact .binary large (fun reaches => apart (2 ^ 63) (by exact_mod_cast reaches.2))
        fun i => apart i.toInt
  | some k =>
      have value := ((Binary64.to_int_iff _ k).mp whole).2
      obtain ⟨own, beyond⟩ := n.exact_of_rounded standard large k whole
      have reached (reaches : n.ReachesLimit) : k = 2 ^ 63 := by
        exact_mod_cast value.symm.trans reaches.2
      rcases lt_trichotomy k (2 ^ 63) with below | rfl | above
      · by_cases low : -2 ^ 63 ≤ k
        · obtain ⟨i, held, same⟩ := of_binary_word _ k whole low below
          rw [held]
          exact .word i (by rw [own below, same]) fun reaches => below.ne (reached reaches)
        · rw [of_binary_beyond _ k whole (.inl (Int.not_le.mp low))]
          refine .binary large (fun reaches => below.ne (reached reaches)) fun i same => low ?_
          rw [value, Int.cast_inj] at same
          rw [same]
          exact i.le_toInt
      · rw [of_binary_limit _ whole]
        exact .limit ⟨large, by rw [value]; norm_num⟩ (beyond rfl)
      · rw [of_binary_beyond _ k whole (.inr above)]
        refine .binary large (fun reaches => above.ne' (reached reaches)) fun i same => ?_
        rw [value, Int.cast_inj] at same
        have high := i.toInt_lt
        omega

theorem of_number_holds (n : Json.Number) (standard : n.IsStandard) :
    ∃ s, ofJson (.number n) = some s ∧ Holds n s := by
  rw [ofJson, ofNumber]
  cases word : n.toInt64? with
  | some i =>
      refine ⟨.integer i, rfl, .word i (n.word_exact i word) fun reaches => ?_⟩
      rw [reaches.1] at word
      cases word
  | none => exact ⟨_, if_pos (n.standard_finite standard), rounded_holds n standard word⟩

theorem below_limit (i : Int64) : (i.toInt : ℚ) < 2 ^ 63 := by
  exact_mod_cast i.toInt_lt

theorem keeps_iff (n : Json.Number) (s : Scalar) (held : Holds n s) :
    Keeps n s ↔ ¬ n.ReachesLimit := by
  cases held with
  | word i own unlimited => exact iff_of_true (.own n i own) unlimited
  | binary large unlimited apart => exact iff_of_true (.binary n large apart) unlimited
  | limit reaches beyond =>
      have most := below_limit Int64.maxValue
      refine iff_of_false (fun kept => ?_) (not_not.mpr reaches)
      cases kept with
      | own _ own =>
          rw [own] at beyond
          exact absurd most (not_lt.mpr beyond)
      | rounded _ _ own =>
          rw [← own, reaches.2] at most
          exact lt_irrefl _ most

theorem word_not_limit (m n : Json.Number) (i : Int64) (own : m.exact = i.toInt)
    (unlimited : ¬ m.ReachesLimit) (reaches : n.ReachesLimit) (beyond : 2 ^ 63 ≤ n.exact) :
    ¬ m.ReadAlike n := by
  rintro (same | ⟨large, -, same⟩)
  · rw [← same, own] at beyond
    exact absurd (below_limit i) (not_lt.mpr beyond)
  · exact unlimited ⟨large, same ▸ reaches.2⟩

theorem alike_of_held (m n : Json.Number) (standard : m.IsStandard) (standard' : n.IsStandard)
    (s : Scalar) (held : Holds m s) (held' : Holds n s) :
    m.ReadAlike n ↔ (m.ReachesLimit ↔ n.ReachesLimit) := by
  cases held with
  | word i own unlimited =>
      cases held' with
      | word _ own' unlimited' =>
          exact iff_of_true (.inl (own.trans own'.symm)) (iff_of_false unlimited unlimited')
      | limit reaches beyond =>
          exact iff_of_false (word_not_limit m n _ own unlimited reaches beyond)
            fun both => unlimited (both.mpr reaches)
  | limit reaches beyond =>
      cases held' with
      | word _ own unlimited =>
          refine iff_of_false (fun alike => ?_) fun both => unlimited (both.mp reaches)
          exact word_not_limit n m _ own unlimited reaches beyond alike.symm
      | limit reaches' beyond' =>
          have some : m.toBinary64.exact ≠ 0 := by
            rw [reaches.2]
            norm_num
          have same := Binary64.exact_injective _ _ (m.standard_finite standard)
            (n.standard_finite standard') (reaches.2.trans reaches'.2.symm) some
          exact iff_of_true (.inr ⟨reaches.1, reaches'.1, same⟩) (iff_of_true reaches reaches')
  | binary large unlimited apart =>
      generalize same : m.toBinary64 = x at held'
      cases held' with
      | binary large' unlimited' apart' =>
          exact iff_of_true (.inr ⟨large, large', same⟩) (iff_of_false unlimited unlimited')

theorem numbers_keep_values (n : Json.Number) (standard : n.IsStandard) :
    ∃ s, ofJson (.number n) = some s ∧ (Keeps n s ↔ ¬ n.ReachesLimit) ∧
      (n.ReachesLimit → s = .integer Int64.maxValue) ∧
      ∀ m : Json.Number, m.IsStandard → ofJson (.number m) = some s →
        (m.ReadAlike n ↔ (m.ReachesLimit ↔ n.ReachesLimit)) := by
  obtain ⟨s, read, held⟩ := of_number_holds n standard
  refine ⟨s, read, keeps_iff n s held, fun reaches => ?_, fun m standard' read' => ?_⟩
  · cases held with
    | limit => rfl
    | word _ _ unlimited => exact absurd reaches unlimited
    | binary _ unlimited _ => exact absurd reaches unlimited
  · obtain ⟨s', again, held'⟩ := of_number_holds m standard'
    obtain rfl := Option.some.inj (read'.symm.trans again)
    exact alike_of_held m n standard' standard s held' held

def pastLimit : Json.Number := .integer (2 ^ 63 + 1025)

def nextToLimit : Json.Number := .binary (Binary64.ofInt (2 ^ 63 + 2048))

theorem past_limit_kept : pastLimit.IsStandard ∧ nextToLimit.IsStandard ∧
    ofJson (.number nextToLimit) = ofJson (.number pastLimit) ∧
      ∃ s, ofJson (.number pastLimit) = some s ∧ Keeps pastLimit s ∧
        nextToLimit.ReadAlike pastLimit := by
  have standard : pastLimit.IsStandard := ⟨by decide, by decide⟩
  have standard' : nextToLimit.IsStandard := Binary64.of_int_finite _ (by decide)
  have same : ofJson (.number nextToLimit) = ofJson (.number pastLimit) := by decide +kernel
  have unlimited (n : Json.Number) (rounds : n.toBinary64.toInt? = some (2 ^ 63 + 2048)) :
      ¬ n.ReachesLimit := by
    rintro ⟨-, reaches⟩
    rw [((Binary64.to_int_iff _ _).mp rounds).2] at reaches
    norm_num at reaches
  have first := unlimited pastLimit (by decide +kernel)
  have second := unlimited nextToLimit (by decide +kernel)
  obtain ⟨s, read, kept, -, alike⟩ := numbers_keep_values pastLimit standard
  exact ⟨standard, standard', same, s, read, kept.mpr first,
    (alike nextToLimit standard' (same.trans read)).mpr (iff_of_false second first)⟩

theorem limit_loses_one :
    (Json.Number.integer (2 ^ 63)).IsStandard ∧ (Json.Number.integer (2 ^ 63 - 1)).IsStandard ∧
      ofJson (.number (.integer (2 ^ 63))) = some (.integer Int64.maxValue) ∧
      ofJson (.number (.integer (2 ^ 63 - 1))) = some (.integer Int64.maxValue) ∧
      ¬ Keeps (.integer (2 ^ 63)) (.integer Int64.maxValue) ∧
      ¬ (Json.Number.integer (2 ^ 63 - 1)).ReadAlike (.integer (2 ^ 63)) := by
  have reaches : (Json.Number.integer (2 ^ 63)).ReachesLimit := by
    refine ⟨by decide, ?_⟩
    exact_mod_cast ((Binary64.to_int_iff _ _).mp Binary64.limit_whole).2
  have beyond : 2 ^ 63 ≤ (Json.Number.integer (2 ^ 63)).exact := by
    rw [Json.Number.exact]
    norm_num
  have own := Json.Number.word_exact (.integer (2 ^ 63 - 1)) Int64.maxValue (by decide)
  have unlimited : ¬ (Json.Number.integer (2 ^ 63 - 1)).ReachesLimit := fun reached =>
    absurd reached.1 (by decide)
  refine ⟨⟨by decide, by decide⟩, ⟨by decide, by decide⟩, by decide +kernel, by decide +kernel, ?_,
    word_not_limit _ _ _ own unlimited reaches beyond⟩
  exact fun kept => (keeps_iff _ _ (.limit reaches beyond)).mp kept reaches

end Scalar

end StatTable
