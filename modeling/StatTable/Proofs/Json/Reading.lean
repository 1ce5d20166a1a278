import StatTable.Json.Reader
import StatTable.Proofs.Binary64.Order
import StatTable.Proofs.Json.Standard

set_option autoImplicit false

namespace StatTable.Json

theorem power_of_ten_rank (exponent : Nat) (small : exponent ≤ largestPower) :
    (powerOfTen exponent).rank =
      Binary64.nearestRank (1 * Nat.pow 10 exponent * Binary64.unitsPerOne) 1 := by
  have length : Binary64.decimalLength 1 = 1 := by decide
  rw [largestPower] at small
  rw [powerOfTen, Binary64.ofDecimal, length, if_neg (by decide), if_neg (by omega),
    if_neg (by omega), if_pos (by omega), Int.toNat_natCast]
  rfl

-- Powers of ten are rounded to one or more, which is a number of its own.
theorem power_of_ten_units (exponent : Nat) (small : exponent ≤ largestPower) :
    Binary64.unitsPerOne ≤ Binary64.units (powerOfTen exponent).rank := by
  have power : 1 ≤ 1 * Nat.pow 10 exponent := Nat.mul_pos Nat.one_pos (Nat.pow_pos (by decide))
  calc Binary64.unitsPerOne
      _ = Binary64.units (Binary64.nearestRank (1 * Binary64.unitsPerOne) 1) := by decide +kernel
      _ ≤ Binary64.units (powerOfTen exponent).rank := by
          rw [power_of_ten_rank exponent small]
          exact Binary64.units_strict_mono.monotone
            (Binary64.nearest_rank_mono _ _ 1 (Nat.mul_le_mul_right _ power))

theorem scale_down_finite (x : Binary64) (exponent : Nat) (finite : x.isFinite = true) :
    (scaleDown x exponent).isFinite = true := by
  fun_induction scaleDown x exponent with
  | case1 x exponent small =>
      exact Binary64.div_finite x _ finite (power_of_ten_units exponent small)
  | case2 x exponent large zero => exact finite
  | case3 x exponent large some ih =>
      exact ih (Binary64.div_finite x _ finite (power_of_ten_units _ (Nat.le_refl _)))

theorem scale_up_finite (x : Binary64) (exponent : Nat) (scaled : Binary64)
    (finite : x.isFinite = true) (ok : scaleUp x exponent = some scaled) :
    scaled.isFinite = true := by
  unfold scaleUp at ok
  split at ok
  · dsimp only at ok
    split at ok
    · rename_i inRange
      exact Option.some.inj ok ▸ inRange
    · cases ok
  · split at ok
    · exact Option.some.inj ok ▸ finite
    · cases ok

theorem push_small (kept : Kept) (digit digits : Nat) (ok : kept.push? digit = some digits) :
    digits < UInt64.size := by
  unfold Kept.push? at ok
  dsimp only at ok
  split at ok
  · rename_i small
    exact Option.some.inj ok ▸ small
  · cases ok

theorem keep_whole_small (kept : Kept) (digits : List Nat) (small : kept.digits < UInt64.size) :
    (keepWhole kept digits).digits < UInt64.size := by
  induction digits generalizing kept with
  | nil => exact small
  | cons digit rest ih =>
      rw [keepWhole]
      split
      · rename_i pushed
        exact ih _ (push_small kept digit _ pushed)
      · exact small

theorem keep_fraction_small (kept : Kept) (digits : List Nat) (small : kept.digits < UInt64.size) :
    (keepFraction kept digits).digits < UInt64.size := by
  induction digits generalizing kept with
  | nil => exact small
  | cons digit rest ih =>
      rw [keepFraction]
      split
      · rename_i pushed
        exact ih _ (push_small kept digit _ pushed)
      · exact small

theorem kept_finite (kept : Kept) (x : Binary64) (small : kept.digits < UInt64.size)
    (ok : kept.toBinary64? = some x) : x.isFinite = true := by
  have finite : (Binary64.ofInt kept.digits).isFinite = true :=
    Binary64.of_int_finite _ (Nat.le_of_lt small)
  unfold Kept.toBinary64? at ok
  dsimp only at ok
  split at ok
  · exact scale_up_finite _ _ x finite ok
  · exact Option.some.inj ok ▸ scale_down_finite _ _ finite

theorem binary_finite (numeral : Numeral) (x : Binary64) (ok : numeral.binary? = some x) :
    x.isFinite = true := by
  obtain ⟨scaled, read, signed⟩ := Option.map_eq_some_iff.mp ok
  have small := keep_fraction_small _ (numeral.fraction.getD [])
    (keep_whole_small ⟨0, 0⟩ numeral.whole (by decide))
  have finite : scaled.isFinite = true := by
    refine kept_finite _ scaled ?_ read
    exact small
  split at signed
  · exact signed ▸ finite
  · exact signed ▸ finite

theorem whole_standard (negative : Bool) (n : Nat) (number : Number)
    (ok : wholeNumber? negative n = some number) : number.IsStandard := by
  have size : UInt64.size = 2 ^ 64 := rfl
  unfold wholeNumber? at ok
  split at ok
  · split at ok
    · cases ok
    · split at ok
      · obtain rfl := Option.some.inj ok
        exact ⟨by omega, by omega⟩
      · cases ok
  · split at ok
    · obtain rfl := Option.some.inj ok
      exact ⟨by omega, by omega⟩
    · cases ok

theorem number_standard (cs : List Char) (n : Number) (ok : Number.read cs = some n) :
    n.IsStandard := by
  obtain ⟨numeral, _, ok⟩ := Option.bind_eq_some_iff.mp ok
  unfold Numeral.value? at ok
  dsimp only at ok
  split at ok
  · rename_i whole found
    obtain rfl := Option.some.inj ok
    split at found
    · exact whole_standard _ _ whole found
    · cases found
  · obtain ⟨x, read, rfl⟩ := Option.map_eq_some_iff.mp ok
    exact binary_finite numeral x read

def Token.IsStandard : Token → Prop
  | .number n => n.IsStandard
  | _ => True

theorem next_token_standard (c : Char) (rest : List Char) (token : Token) (remaining : List Char)
    (found : nextToken c rest = some (token, remaining)) : token.IsStandard := by
  unfold nextToken at found
  split at found
  case h_7 =>
    unfold readString at found
    split at found
    · obtain ⟨_, _, same⟩ := Option.map_eq_some_iff.mp found
      obtain ⟨rfl, -⟩ := Prod.mk.inj same
      trivial
    · cases found
  case h_11 =>
    split at found
    · obtain ⟨n, read, same⟩ := Option.map_eq_some_iff.mp found
      obtain ⟨rfl, -⟩ := Prod.mk.inj same
      exact number_standard _ n read
    · cases found
  all_goals
    obtain ⟨rfl, -⟩ := Prod.mk.inj (Option.some.inj found)
    trivial

theorem tokens_standard (cs : List Char) (found : List Token) (ok : tokens cs = some found) :
    ∀ token ∈ found, token.IsStandard := by
  fun_induction tokens cs generalizing found with
  | case1 =>
      obtain rfl := Option.some.inj ok
      simp
  | case2 c rest space ih => exact ih found ok
  | case3 => cases ok
  | case4 c rest dark token remaining next ih =>
      obtain ⟨later, read, rfl⟩ := Option.map_eq_some_iff.mp ok
      exact List.forall_mem_cons.mpr
        ⟨next_token_standard c rest token remaining next, ih later read⟩

theorem mem_insert_member (name : String) (value : Value) (members : List (String × Value))
    (member : String × Value) (listed : member ∈ insertMember name value members) :
    member = (name, value) ∨ member ∈ members := by
  induction members with
  | nil => exact .inl (List.mem_singleton.mp listed)
  | cons first rest ih =>
      rw [insertMember] at listed
      split at listed
      · exact List.mem_cons.mp listed
      · split at listed
        · exact (List.mem_cons.mp listed).imp_right (List.mem_cons_of_mem _)
        · rcases List.mem_cons.mp listed with rfl | later
          · exact .inr List.mem_cons_self
          · exact (ih later).imp_right (List.mem_cons_of_mem _)

def Ascending (members : List (String × Value)) : Prop :=
  members.Pairwise fun member other => member.1 < other.1

theorem insert_ascending (name : String) (value : Value) (members : List (String × Value))
    (ascending : Ascending members) : Ascending (insertMember name value members) := by
  induction members with
  | nil => exact List.pairwise_singleton _ _
  | cons first rest ih =>
      obtain ⟨least, others⟩ := List.pairwise_cons.mp ascending
      rw [insertMember]
      split
      · rename_i before
        refine List.pairwise_cons.mpr ⟨List.forall_mem_cons.mpr ⟨before, fun other member => ?_⟩,
          ascending⟩
        exact String.lt_trans before (least other member)
      · split
        · rename_i same
          subst same
          exact List.pairwise_cons.mpr ⟨least, others⟩
        · rename_i notBefore differs
          refine List.pairwise_cons.mpr ⟨fun other member => ?_, ih others⟩
          rcases mem_insert_member name value rest other member with rfl | old
          · exact Std.lt_of_le_of_ne notBefore (Ne.symm differs)
          · exact least other old

theorem sorted_members (members : List (String × Value)) :
    Ascending (sortMembers members) ∧ ∀ member ∈ sortMembers members, member ∈ members := by
  refine List.foldlRecOn (motive := fun sorted => Ascending sorted ∧
    ∀ member ∈ sorted, member ∈ members) members _ ⟨.nil, by simp⟩ ?_
  intro sorted held entry listed
  refine ⟨insert_ascending _ _ sorted held.1, fun member inserted => ?_⟩
  rcases mem_insert_member _ _ sorted member inserted with rfl | old
  · exact listed
  · exact held.2 member old

theorem of_members_standard (members : List (String × Value))
    (standard : ∀ member ∈ members, member.2.IsStandard) : (Value.ofMembers members).IsStandard := by
  obtain ⟨ascending, listed⟩ := sorted_members members
  rw [Value.ofMembers, Value.IsStandard, members_standard_iff]
  refine ⟨?_, fun member sorted => standard member (listed member sorted)⟩
  exact (List.pairwise_map.mpr ascending).imp fun before => String.ne_of_lt before

def Frame.IsStandard : Frame → Prop
  | .array items => ∀ item ∈ items, item.IsStandard
  | .object members | .member members _ => ∀ member ∈ members, member.2.IsStandard

def Expect.IsStandard : Expect → Prop
  | .finish result => result.IsStandard
  | _ => True

structure Reading.IsStandard (reading : Reading) : Prop where
  stack : ∀ frame ∈ reading.stack, frame.IsStandard
  expect : reading.expect.IsStandard

namespace Reading

theorem complete_standard (value : Value) (stack : List Frame) (reading : Reading)
    (standard : value.IsStandard) (held : ∀ frame ∈ stack, frame.IsStandard)
    (ok : complete value stack = some reading) : reading.IsStandard := by
  cases stack with
  | nil =>
      obtain rfl := Option.some.inj ok
      exact ⟨held, standard⟩
  | cons frame rest =>
      obtain ⟨own, others⟩ := List.forall_mem_cons.mp held
      cases frame with
      | object members => cases ok
      | array items =>
          obtain rfl := Option.some.inj ok
          exact ⟨List.forall_mem_cons.mpr ⟨List.forall_mem_cons.mpr ⟨standard, own⟩, others⟩,
            trivial⟩
      | member members name =>
          obtain rfl := Option.some.inj ok
          exact ⟨List.forall_mem_cons.mpr ⟨List.forall_mem_cons.mpr ⟨standard, own⟩, others⟩,
            trivial⟩

theorem open_standard (frame : Frame) (expect : Expect) (stack : List Frame) (reading : Reading)
    (own : frame.IsStandard) (next : expect.IsStandard)
    (held : ∀ frame ∈ stack, frame.IsStandard)
    (ok : openFrame frame expect stack = some reading) : reading.IsStandard := by
  unfold openFrame at ok
  split at ok
  · obtain rfl := Option.some.inj ok
    exact ⟨List.forall_mem_cons.mpr ⟨own, held⟩, next⟩
  · cases ok

theorem take_value_standard (stack : List Frame) (token : Token) (reading : Reading)
    (standard : token.IsStandard) (held : ∀ frame ∈ stack, frame.IsStandard)
    (ok : takeValue stack token = some reading) : reading.IsStandard := by
  cases token with
  | null => exact complete_standard .null stack reading trivial held ok
  | bool b => exact complete_standard (.bool b) stack reading trivial held ok
  | number n => exact complete_standard (.number n) stack reading standard held ok
  | string s => exact complete_standard (.string s) stack reading trivial held ok
  | openBracket =>
      exact open_standard (.array []) .valueOrClose stack reading (by simp [Frame.IsStandard])
        trivial held ok
  | openBrace =>
      exact open_standard (.object []) .nameOrClose stack reading (by simp [Frame.IsStandard])
        trivial held ok
  | closeBrace | closeBracket | comma | colon => cases ok

theorem take_name_standard (stack : List Frame) (token : Token) (reading : Reading)
    (held : ∀ frame ∈ stack, frame.IsStandard) (ok : takeName stack token = some reading) :
    reading.IsStandard := by
  unfold takeName at ok
  split at ok
  · obtain rfl := Option.some.inj ok
    obtain ⟨own, others⟩ := List.forall_mem_cons.mp held
    exact ⟨List.forall_mem_cons.mpr ⟨own, others⟩, trivial⟩
  · cases ok

theorem close_standard (stack : List Frame) (token : Token) (reading : Reading)
    (held : ∀ frame ∈ stack, frame.IsStandard) (ok : close stack token = some reading) :
    reading.IsStandard := by
  unfold close at ok
  split at ok
  · obtain ⟨own, others⟩ := List.forall_mem_cons.mp held
    refine complete_standard _ _ reading ?_ others ok
    exact (items_standard_iff _).mpr fun item listed => own item (List.mem_reverse.mp listed)
  · obtain ⟨own, others⟩ := List.forall_mem_cons.mp held
    refine complete_standard _ _ reading (of_members_standard _ ?_) others ok
    exact fun member listed => own member (List.mem_reverse.mp listed)
  · cases ok

theorem next_standard (reading later : Reading) (token : Token) (standard : token.IsStandard)
    (held : reading.IsStandard) (ok : reading.next token = some later) : later.IsStandard := by
  unfold next at ok
  split at ok
  · exact take_value_standard _ _ later standard held.stack ok
  · exact close_standard _ _ later held.stack ok
  · exact take_value_standard _ _ later standard held.stack ok
  · exact take_name_standard _ _ later held.stack ok
  · exact close_standard _ _ later held.stack ok
  · exact take_name_standard _ _ later held.stack ok
  · obtain rfl := Option.some.inj ok
    exact ⟨held.stack, trivial⟩
  · split at ok
    · obtain rfl := Option.some.inj ok
      exact ⟨held.stack, trivial⟩
    · obtain rfl := Option.some.inj ok
      exact ⟨held.stack, trivial⟩
  · exact close_standard _ _ later held.stack ok
  · cases ok

theorem run_standard (tokens : List Token) (reading final : Reading)
    (standard : ∀ token ∈ tokens, token.IsStandard) (held : reading.IsStandard)
    (ok : tokens.foldlM next reading = some final) : final.IsStandard := by
  induction tokens generalizing reading with
  | nil => exact Option.some.inj ok ▸ held
  | cons token rest ih =>
      obtain ⟨own, others⟩ := List.forall_mem_cons.mp standard
      obtain ⟨later, step, ok⟩ := Option.bind_eq_some_iff.mp ok
      exact ih later others (next_standard reading later token own held step) ok

end Reading

theorem read_standard (text : String) (value : Value) (ok : read text = some value) :
    value.IsStandard := by
  obtain ⟨found, scanned, ok⟩ := Option.bind_eq_some_iff.mp ok
  obtain ⟨reading, run, ok⟩ := Option.bind_eq_some_iff.mp ok
  have start : Reading.start.IsStandard := ⟨by simp [Reading.start], trivial⟩
  have final := Reading.run_standard found Reading.start reading
    (tokens_standard text.toList found scanned) start run
  unfold Reading.result? at ok
  split at ok
  · rename_i finished
    obtain rfl := Option.some.inj ok
    have standard := final.expect
    rwa [finished] at standard
  · cases ok

end StatTable.Json
