import StatTable.Proofs.Json.Numeral
import StatTable.Proofs.Outputs.Uses
import StatTable.Proofs.Splits.OneRow

set_option autoImplicit false

namespace StatTable

namespace OutputKind

def label : OutputKind → String
  | .entity => Catalog.playerKey
  | .split dimension => dimension.name
  | .column id occurrence => id ++ "_" ++ Text.decimal occurrence

theorem decimal_digits (n : Nat) : (Text.decimal n).toList = Nat.toDigits 10 n := by
  rw [Text.decimal, String.toList_ofList, Text.decimalChars, if_neg (by omega), Int.natAbs_natCast]

theorem label_chars (id : String) (occurrence : Nat) : (label (.column id occurrence)).toList =
    id.toList ++ '_' :: Nat.toDigits 10 occurrence := by
  rw [label, String.toList_append, String.toList_append, decimal_digits, List.append_assoc]
  rfl

-- The digits at the end of a name number the use.
theorem column_label_injective (id other : String) (occurrence number : Nat)
    (same : label (.column id occurrence) = label (.column other number)) :
    id = other ∧ occurrence = number := by
  have chars := congrArg (fun name => name.toList.reverse) same
  simp only [label_chars, List.reverse_append, List.reverse_cons, List.append_assoc,
    List.singleton_append] at chars
  have digits (n : Nat) : ∀ c ∈ (Nat.toDigits 10 n).reverse, Json.isDigit c = true :=
    fun c listed => Json.digits_to_digits n c (List.mem_reverse.mp listed)
  have stop (rest : List Char) : Json.Stops Json.isDigit ('_' :: rest) :=
    Json.stops_cons _ _ _ (by decide)
  have left := Json.take_while_stops _ _ _ (digits occurrence) (stop id.toList.reverse)
  have right := Json.take_while_stops _ _ _ (digits number) (stop other.toList.reverse)
  have numbers := left.1.symm.trans ((congrArg _ chars).trans right.1)
  have ids := left.2.symm.trans ((congrArg _ chars).trans right.2)
  rw [List.cons_inj_right, List.reverse_inj, String.toList_inj] at ids
  refine ⟨ids, ?_⟩
  rw [List.reverse_inj] at numbers
  rw [← Json.nat_of_to_digits occurrence, numbers, Json.nat_of_to_digits]

theorem column_label_apart (id : String) (occurrence : Nat) (name : String)
    (plain : '_' ∉ name.toList) : label (.column id occurrence) ≠ name := by
  rintro rfl
  rw [label_chars] at plain
  exact plain (by simp)

theorem label_injective (one other : OutputKind) (same : one.label = other.label) : one = other := by
  have plain (split : Split) : '_' ∉ split.name.toList := by cases split <;> decide
  have key : '_' ∉ Catalog.playerKey.toList := by decide
  cases one with
  | entity =>
      cases other with
      | entity => rfl
      | split dimension => cases dimension <;> exact absurd same (by decide)
      | column id occurrence => exact absurd same.symm (column_label_apart _ _ _ key)
  | split dimension =>
      cases other with
      | entity => cases dimension <;> exact absurd same (by decide)
      | split other => cases dimension <;> cases other <;> first | rfl | exact absurd same (by decide)
      | column id occurrence => exact absurd same.symm (column_label_apart _ _ _ (plain dimension))
  | column id occurrence =>
      cases other with
      | entity => exact absurd same (column_label_apart _ _ _ key)
      | split dimension => exact absurd same (column_label_apart _ _ _ (plain dimension))
      | column other number =>
          obtain ⟨rfl, rfl⟩ := column_label_injective _ _ _ _ same
          rfl

end OutputKind

namespace TableState

def carried (state : TableState) (groups : List Plan.Group) : List Split :=
  Split.all.filter fun split => state.splits.contains split &&
    groups.any fun group => !group.isDenominator && (group.splitColumn split).isSome

end TableState

namespace Plan

theorem leading_some (chain : SplitChain) (split : Split) :
    (∃ ref, ref ∈ chain.leading split) ↔ ∃ ref ∈ chain.placed, ref.split = split := by
  have carrying (ref : SplitRef) :
      ref ∈ chain.placed.filter (·.split == split) ↔ ref ∈ chain.placed ∧ ref.split = split := by
    rw [List.mem_filter, beq_iff_eq]
  constructor
  · rintro ⟨ref, leads⟩
    exact ⟨ref, (carrying ref).mp ((mem_leading chain split ref).mp leads).1⟩
  · rintro ⟨ref, carries⟩
    by_cases anchors : ∃ other ∈ chain.placed.filter (·.split == split), other.isAnchored = true
    · obtain ⟨other, listed, anchored⟩ := anchors
      exact ⟨other, (mem_leading chain split other).mpr ⟨listed, .inl anchored⟩⟩
    · refine ⟨ref, (mem_leading chain split ref).mpr ⟨(carrying ref).mpr carries, .inr ?_⟩⟩
      exact fun other listed => Bool.eq_false_iff.mpr fun anchored => anchors ⟨other, listed, anchored⟩

theorem chain_carries (chain : SplitChain) (split : Split) :
    (chain.output? split).isSome = true ↔ ∃ ref ∈ chain.placed, ref.split = split := by
  rw [← leading_some]
  unfold SplitChain.output?
  cases chain.leading split with
  | nil => simp
  | cons ref rest => cases rest <;> simp

theorem carried_shown (bindings : Bindings) (split : Split) :
    (bindings.chain.output? split).isSome = bindings.table.groups.any fun group =>
      !group.isDenominator && (group.splitColumn split).isSome := by
  rw [Bool.eq_iff_iff, chain_carries, chain_placed, List.any_eq_true]
  constructor
  · rintro ⟨ref, placed, rfl⟩
    obtain ⟨group, joined, primary, own⟩ := (mem_refs_of _ ref).mp placed
    obtain ⟨split, _, column, held, rfl⟩ := (mem_split_refs group ref).mp own
    exact ⟨group, ((mem_join_order _ _).mp joined).1, by rw [primary, held]; rfl⟩
  · rintro ⟨group, placed, carries⟩
    rw [Bool.and_eq_true, Bool.not_eq_true', Option.isSome_iff_exists] at carries
    obtain ⟨primary, column, held⟩ := carries
    have listed : split ∈ group.splits := by
      rw [Group.splitColumn] at held
      split at held
      · rename_i carried
        exact List.contains_iff_mem.mp carried
      · cases held
    refine ⟨⟨split, group.aliasName, column, group.yearOffset⟩, (mem_refs_of _ _).mpr ⟨group,
      (mem_join_order _ _).mpr ⟨placed, .inl primary⟩, primary, ?_⟩, rfl⟩
    exact (mem_split_refs group _).mpr ⟨split, listed, column, held, rfl⟩

theorem leading_kinds (state : TableState) (bindings : Bindings) :
    (leadingOutputs (canonicalSplits state.splits) bindings.chain).map (·.kind) =
      .entity :: (state.carried bindings.table.groups).map OutputKind.split := by
  have kinds (splits : List Split) : (splits.filterMap fun split =>
      (bindings.chain.output? split).map fun value =>
        (⟨split.name, .split split, value⟩ : Output)).map (·.kind) =
        (splits.filter fun split => (bindings.chain.output? split).isSome).map OutputKind.split := by
    rw [List.map_filterMap, ← List.filterMap_eq_map, List.filterMap_filter]
    refine congrArg (List.filterMap · splits) (funext fun split => ?_)
    cases bindings.chain.output? split <;> rfl
  rw [leadingOutputs, List.map_cons, kinds, canonicalSplits, List.filter_filter, TableState.carried]
  refine congrArg (fun splits => OutputKind.entity :: List.map OutputKind.split splits)
    (List.filter_congr fun split _ => ?_)
  rw [carried_shown, Bool.and_comm]

theorem leading_labelled (splits : List Split) (chain : SplitChain) :
    ∀ output ∈ leadingOutputs splits chain, output.name = output.kind.label := by
  rw [leadingOutputs, List.forall_mem_cons]
  refine ⟨rfl, fun output listed => ?_⟩
  obtain ⟨split, _, carried⟩ := List.mem_filterMap.mp listed
  obtain ⟨value, _, rfl⟩ := Option.map_eq_some_iff.mp carried
  rfl

section

variable (defaults : Defaults) (state : TableState) (requests : Requests) (bindings : Bindings)
variable (plan : QueryPlan) (collected : Requests.ofState state = .ok requests)
variable (bound : Bindings.of defaults (canonicalSplits state.splits) requests = .ok bindings)
variable (compiled : Compiled state bindings plan)

include compiled

theorem outputs_labelled : plan.outputNames = plan.outputs.map (·.kind.label) := by
  refine List.map_congr_left fun output listed => ?_
  rw [compiled.outputs] at listed
  rcases List.mem_append.mp listed with leading | column
  · exact leading_labelled _ _ output leading
  · obtain ⟨bound, _, rfl⟩ := List.mem_map.mp column
    rfl

include collected bound

theorem plan_kinds : plan.outputs.map (·.kind) =
    .entity :: (state.carried bindings.table.groups).map OutputKind.split ++
      numbered [] (state.shown.map (·.id)) := by
  rw [compiled.outputs, List.map_append, leading_kinds, output_kinds _ _ _ _ bound,
    of_state_kinds state requests collected]

theorem plan_kinds_nodup : (plan.outputs.map (·.kind)).Nodup := by
  have splits : ((state.carried bindings.table.groups).map OutputKind.split).Nodup := by
    refine List.Nodup.map (fun one other same => ?_) (List.Nodup.filter _ (by decide))
    injection same
  have columns := numbered_columns [] (state.shown.map (·.id))
  rw [plan_kinds defaults state requests bindings plan collected bound compiled, List.cons_append,
    List.nodup_cons, List.nodup_append]
  refine ⟨fun listed => ?_, splits, numbered_nodup _, ?_⟩
  · rcases List.mem_append.mp listed with split | column
    · obtain ⟨_, _, same⟩ := List.mem_map.mp split
      cases same
    · obtain ⟨_, _, same⟩ := columns _ column
      cases same
  · rintro kind split other column rfl
    obtain ⟨_, _, rfl⟩ := List.mem_map.mp split
    obtain ⟨_, _, same⟩ := columns _ column
    cases same

theorem output_names_nodup : plan.outputNames.Nodup := by
  have kinds := plan_kinds_nodup defaults state requests bindings plan collected bound compiled
  have labels := kinds.map OutputKind.label_injective
  rw [outputs_labelled state bindings plan compiled]
  rwa [List.map_map] at labels

end

end Plan

end StatTable
