import StatTable.Proofs.Splits.Agreement

set_option autoImplicit false

namespace StatTable.Plan

open Sql

def ApartIn (engine : Engine) (refs : List SplitRef) (splits : List Split) (one other : Scope) : Prop :=
  ∃ first ∈ refs, ∃ second ∈ refs, first.split = second.split ∧ first.split ∈ splits ∧
    cell one first ≠ .null ∧ cell other second ≠ .null ∧
      engine.equal (cell one first) (cell other second) = false

def chainAfter (joined : List Group) : SplitChain := joined.foldl extendChain .empty

theorem chain_after_placed (joined : List Group) : (chainAfter joined).placed = refsOf joined := by
  rw [chainAfter, extended_placed]
  rfl

theorem refs_of_mem (groups : List Group) (group : Group) (member : group ∈ groups)
    (primary : group.isDenominator = false) : ∀ ref ∈ splitRefs group, ref ∈ refsOf groups :=
  fun ref own => (mem_refs_of groups ref).mpr ⟨group, member, primary, own⟩

section

variable (engine : Engine) (tables : Tables) (player : Row)
variable (ordered done rest : List Group) (group : Group)
variable (order : ordered = done ++ group :: rest) (joinable : Joinable ordered)

-- What tells two partial rows apart still does when rows are joined to them.
theorem step_apart (splits : List Split) (one other oneJoined otherJoined : Scope)
    (onePartial : Partial engine player (refsOf ordered) (group :: rest) one)
    (otherPartial : Partial engine player (refsOf ordered) (group :: rest) other)
    (apart : group.aliasName ≠ Catalog.playerTable)
    (oneMember : oneJoined ∈
      (planJoin ordered (chainAfter done) group).join.rows engine tables one)
    (otherMember : otherJoined ∈
      (planJoin ordered (chainAfter done) group).join.rows engine tables other)
    (differ : ApartIn engine (refsOf ordered) splits one other) :
    ApartIn engine (refsOf ordered) splits oneJoined otherJoined := by
  obtain ⟨first, firstMember, second, secondMember, same, listed, oneGiven, otherGiven, different⟩ :=
    differ
  obtain ⟨oneRow, rfl, _⟩ := mem_join_rows engine tables player ordered _ group one oneJoined
    onePartial.player apart oneMember
  obtain ⟨otherRow, rfl, _⟩ := mem_join_rows engine tables player ordered _ group other otherJoined
    otherPartial.player apart otherMember
  have unjoined : ∀ scope, Partial engine player (refsOf ordered) (group :: rest) scope →
      ∀ ref, cell scope ref ≠ .null → ref.aliasName ≠ group.aliasName := by
    intro scope partly ref given named
    refine given ?_
    rw [cell, named, partly.unjoined group (by simp)]
    rfl
  refine ⟨first, firstMember, second, secondMember, same, listed, ?_⟩
  rw [ref_cell_other _ _ _ _ (unjoined one onePartial first oneGiven),
    ref_cell_other _ _ _ _ (unjoined other otherPartial second otherGiven)]
  exact ⟨oneGiven, otherGiven, different⟩

theorem tied_satisfied (scope : Scope) (row : Row) (primary : group.isDenominator = false)
    (ties : tied engine ordered (chainAfter done) group scope row = true) (own : SplitRef)
    (ownMember : own ∈ splitRefs group) :
    satisfies engine [scope.extend group.aliasName row] ((chainAfter done).condition? own) = true := by
  cases condition : (chainAfter done).condition? own with
  | none => rfl
  | some made =>
      refine List.all_eq_true.mp ties made ?_
      unfold tieConditions
      unfold Group.isDenominator at primary
      split
      · simp_all
      · exact List.mem_filterMap.mpr ⟨own, ownMember, condition⟩

include order

theorem group_ordered : group ∈ ordered := by
  rw [order]
  simp

theorem done_ordered (ref : SplitRef) (placed : ref ∈ refsOf done) : ref ∈ refsOf ordered := by
  obtain ⟨holder, holderMember, primary, own⟩ := (mem_refs_of done ref).mp placed
  exact refs_of_mem ordered holder (by simp [order, holderMember]) primary ref own

theorem given_placed (scope : Scope) (partly : Partial engine player (refsOf ordered) (group :: rest) scope)
    (ref : SplitRef) (member : ref ∈ refsOf ordered) (given : cell scope ref ≠ .null) :
    ref ∈ refsOf done := by
  obtain ⟨holder, holderMember, primary, own⟩ := (mem_refs_of ordered ref).mp member
  rw [order, List.mem_append] at holderMember
  rcases holderMember with before | after
  · exact refs_of_mem done holder before primary ref own
  · refine absurd ?_ given
    rw [cell, split_ref_alias holder ref own, partly.unjoined holder after]
    rfl

include joinable

theorem ref_under_alias (ref : SplitRef) (member : ref ∈ refsOf ordered)
    (named : ref.aliasName = group.aliasName) :
    ref ∈ splitRefs group ∧ group.isDenominator = false := by
  obtain ⟨holder, holderMember, primary, own⟩ := (mem_refs_of ordered ref).mp member
  obtain rfl := distinct_eq ordered joinable.distinct holder group holderMember
    (group_ordered ordered done rest group order) ((split_ref_alias holder ref own).symm.trans named)
  exact ⟨own, primary⟩

theorem done_alias_other (ref : SplitRef) (placed : ref ∈ refsOf done) :
    ref.aliasName ≠ group.aliasName := by
  obtain ⟨holder, holderMember, _, own⟩ := (mem_refs_of done ref).mp placed
  have distinct := joinable.distinct
  rw [order, Distinct, List.map_append, List.nodup_append] at distinct
  rw [split_ref_alias holder ref own]
  exact distinct.2.2 _ (List.mem_map_of_mem holderMember) _ (by simp)

-- The rows of a group that could be joined to one partial row differ in a dimension of the group.
theorem primary_pairwise (scope : Scope) (primary : group.isDenominator = false)
    (own : scope Catalog.playerTable = player) (once : group.OffersOnce engine tables player) :
    ((planJoin ordered (chainAfter done) group).join.matching engine tables scope).Pairwise
      (ApartIn engine (refsOf ordered) group.splits) := by
  have placed := group_ordered ordered done rest group order
  rw [matching_eq engine tables player ordered _ group scope own (joinable.apart group placed),
    List.pairwise_map]
  refine List.Pairwise.sublist List.filter_sublist (once.once.imp_of_mem ?_)
  rintro one other oneMember otherMember ⟨ref, refOwn, different⟩
  have listed := refs_of_mem ordered group placed primary ref refOwn
  obtain ⟨split, carried, column, held, made⟩ := (mem_split_refs group ref).mp refOwn
  refine ⟨ref, listed, ref, listed, rfl, by simpa [made] using carried, ?_⟩
  rw [ref_cell_own scope group one ref refOwn, ref_cell_own scope group other ref refOwn]
  exact ⟨once.given one oneMember ref refOwn, once.given other otherMember ref refOwn, different⟩

theorem denominator_tied (scope : Scope) (row : Row) (numerator : Group) (rate : Rate)
    (numeratorPlaced : numerator ∈ ordered) (primary : numerator.isDenominator = false)
    (source : group.source = .denominator rate numerator.aliasName)
    (splits : group.splits = numerator.splits)
    (ties : tied engine ordered (chainAfter done) group scope row = true) (ref : SplitRef)
    (own : ref ∈ splitRefs group) : ∃ column, numerator.splitColumn ref.split = some column ∧
      engine.equal (row ref.column) (scope numerator.aliasName column) = true := by
  have placed := group_ordered ordered done rest group order
  obtain ⟨split, carried, column, held, rfl⟩ := (mem_split_refs group ref).mp own
  obtain ⟨column', held'⟩ := joinable.columns numerator numeratorPlaced split (splits ▸ carried)
  refine ⟨column', held', ?_⟩
  have different : numerator.aliasName ≠ group.aliasName := by
    intro same
    obtain rfl := distinct_eq ordered joinable.distinct numerator group numeratorPlaced placed same
    rw [(denominator_source numerator).mpr ⟨rate, _, source⟩] at primary
    exact absurd primary (by simp)
  unfold tied tieConditions at ties
  rw [source] at ties
  dsimp only at ties
  rw [find_alias ordered joinable.distinct numerator numeratorPlaced] at ties
  have tie := List.all_eq_true.mp ties
    (.eq (.field group.aliasName column) (.field numerator.aliasName column'))
    (List.mem_filterMap.mpr ⟨split, carried, by simp [held, held']⟩)
  simpa [Scope.extend_other _ _ _ _ different] using tie

-- A denominator takes its dimensions from its numerator, so at most one of its rows can be joined.
theorem denominator_pairwise (scope : Scope) (divides : group.isDenominator = true)
    (own : scope Catalog.playerTable = player) (once : group.OffersOnce engine tables player)
    (R : Scope → Scope → Prop) :
    ((planJoin ordered (chainAfter done) group).join.matching engine tables scope).Pairwise R := by
  have placed := group_ordered ordered done rest group order
  rw [matching_eq engine tables player ordered _ group scope own (joinable.apart group placed),
    List.pairwise_map]
  obtain ⟨numerator, numeratorPlaced, primary, rate, source, splits⟩ :=
    joinable.divides group placed divides
  refine (List.Pairwise.sublist List.filter_sublist once.once).imp_of_mem ?_
  rintro one other oneMember otherMember ⟨ref, refOwn, different⟩
  have tie := fun row ties => denominator_tied engine ordered done rest group order joinable scope row
    numerator rate numeratorPlaced primary source splits ties ref refOwn
  obtain ⟨column, held, oneTied⟩ := tie one (List.mem_filter.mp oneMember).2
  obtain ⟨column', held', otherTied⟩ := tie other (List.mem_filter.mp otherMember).2
  rw [held] at held'
  obtain rfl := Option.some.inj held'
  have equal := engine.equal_trans _ _ _ oneTied (engine.equal_symm _ _ otherTied)
  rw [different] at equal
  exact absurd equal (by simp)

theorem step_pairwise (scope : Scope) (own : scope Catalog.playerTable = player)
    (once : group.OffersOnce engine tables player) :
    ((planJoin ordered (chainAfter done) group).join.rows engine tables scope).Pairwise
      (ApartIn engine (refsOf ordered) group.splits) := by
  refine join_rows_pairwise engine tables _ _ scope ?_
  cases divides : group.isDenominator with
  | false =>
      exact primary_pairwise engine tables player ordered done rest group order joinable scope divides own
        once
  | true =>
      exact denominator_pairwise engine tables player ordered done rest group order joinable scope divides
        own once _

variable (unshifted : Unshifted (refsOf ordered))

include unshifted

theorem own_agrees (scope : Scope) (row : Row)
    (partly : Partial engine player (refsOf ordered) (group :: rest) scope)
    (primary : group.isDenominator = false)
    (ties : tied engine ordered (chainAfter done) group scope row = true) (own other : SplitRef)
    (ownMember : own ∈ splitRefs group) (otherMember : other ∈ refsOf ordered)
    (same : own.split = other.split) (given : row own.column ≠ .null) (otherGiven : cell scope other ≠ .null) :
    engine.equal (row own.column) (cell scope other) = true := by
  have placed := given_placed engine player ordered done rest group order scope partly other
    otherMember otherGiven
  have doneOrdered := done_ordered ordered done rest group order
  have cells : ∀ ref ∈ refsOf done,
      cell (scope.extend group.aliasName row) ref = cell scope ref := fun ref refMember =>
    ref_cell_other scope group.aliasName row ref
      (done_alias_other ordered done rest group order joinable ref refMember)
  have agree : Agree engine (scope.extend group.aliasName row) (chainAfter done).placed := by
    intro one oneMember two twoMember
    rw [chain_after_placed] at oneMember twoMember
    rw [cells one oneMember, cells two twoMember]
    exact partly.agree one (doneOrdered one oneMember) two (doneOrdered two twoMember)
  have satisfied := tied_satisfied engine ordered done group scope row primary ties own ownMember
  rw [← ref_cell_own scope group row own ownMember] at given ⊢
  rw [← cells other placed] at otherGiven ⊢
  refine condition_agrees engine (chainAfter done) _ own ?_ ?_ agree given satisfied other ?_ same.symm
    otherGiven
  · intro ref refMember
    rw [chain_after_placed] at refMember
    exact unshifted ref (doneOrdered ref refMember)
  · exact unshifted own (refs_of_mem ordered group (group_ordered _ _ _ _ order) primary own ownMember)
  · rwa [chain_after_placed]

theorem step_partial (scope joined : Scope)
    (partly : Partial engine player (refsOf ordered) (group :: rest) scope)
    (member : joined ∈ (planJoin ordered (chainAfter done) group).join.rows engine tables scope) :
    Partial engine player (refsOf ordered) rest joined := by
  have placed := group_ordered ordered done rest group order
  have apart := joinable.apart group placed
  obtain ⟨row, rfl, source⟩ := mem_join_rows engine tables player ordered _ group scope joined
    partly.player apart member
  refine ⟨?_, ?_, ?_⟩
  · rw [Scope.extend_other _ _ _ _ apart.symm]
    exact partly.player
  · intro later laterMember
    have distinct := joinable.distinct
    rw [order, Distinct, List.map_append, List.map_cons, List.nodup_append, List.nodup_cons] at distinct
    rw [Scope.extend_other, partly.unjoined later (by simp [laterMember])]
    exact fun same => distinct.2.1.1 (same ▸ List.mem_map_of_mem laterMember)
  · intro one oneMember other otherMember same oneGiven otherGiven
    -- Columns of the group that is joined agree by its condition, and others as they did before.
    by_cases oneOwn : one.aliasName = group.aliasName
    · obtain ⟨oneRef, primary⟩ := ref_under_alias ordered done rest group order joinable one oneMember
        oneOwn
      rw [ref_cell_own scope group row one oneRef] at oneGiven ⊢
      have ties := (source.resolve_left fun missing => oneGiven (by rw [missing]; rfl)).2
      by_cases otherOwn : other.aliasName = group.aliasName
      · have otherRef := (ref_under_alias ordered done rest group order joinable other otherMember
          otherOwn).1
        obtain rfl := split_ref_unique group one other oneRef otherRef same
        rw [ref_cell_own scope group row one oneRef]
        exact engine.equal_refl _ oneGiven
      · rw [ref_cell_other _ _ _ _ otherOwn] at otherGiven ⊢
        exact own_agrees engine player ordered done rest group order joinable unshifted scope row partly
          primary ties one other oneRef otherMember same oneGiven otherGiven
    · rw [ref_cell_other _ _ _ _ oneOwn] at oneGiven ⊢
      by_cases otherOwn : other.aliasName = group.aliasName
      · obtain ⟨otherRef, primary⟩ := ref_under_alias ordered done rest group order joinable other
          otherMember otherOwn
        rw [ref_cell_own scope group row other otherRef] at otherGiven ⊢
        have ties := (source.resolve_left fun missing => otherGiven (by rw [missing]; rfl)).2
        exact engine.equal_symm _ _ (own_agrees engine player ordered done rest group order joinable
          unshifted scope row partly primary ties other one otherRef oneMember same.symm otherGiven
          oneGiven)
      · rw [ref_cell_other _ _ _ _ otherOwn] at otherGiven ⊢
        exact partly.agree one oneMember other otherMember same oneGiven otherGiven

end

theorem run_partial (engine : Engine) (tables : Tables) (player : Row) (ordered : List Group)
    (joinable : Joinable ordered) (unshifted : Unshifted (refsOf ordered))
    (once : ∀ group ∈ ordered, group.OffersOnce engine tables player) (rest done : List Group)
    (order : ordered = done ++ rest) (count : Nat) (scopes : List Scope)
    (partly : ∀ scope ∈ scopes, Partial engine player (refsOf ordered) rest scope)
    (apart : scopes.Pairwise (ApartIn engine (refsOf ordered) Split.all)) :
    (∀ scope ∈ joinAll engine tables
        (((planJoins ordered (chainAfter done) rest).take count).map (·.join)) scopes,
      Partial engine player (refsOf ordered) (rest.drop count) scope) ∧
    (joinAll engine tables (((planJoins ordered (chainAfter done) rest).take count).map (·.join))
      scopes).Pairwise (ApartIn engine (refsOf ordered) Split.all) := by
  -- Each join keeps every partial row in agreement, and all of them apart.
  induction rest generalizing done count scopes with
  | nil => simpa [planJoins, join_all_nil] using ⟨partly, apart⟩
  | cons group rest ih =>
      cases count with
      | zero => exact ⟨partly, apart⟩
      | succ count =>
          have placed := group_ordered ordered done rest group order
          rw [planJoins, List.take_succ_cons, List.map_cons, join_all_cons, List.drop_succ_cons]
          have chain : extendChain (chainAfter done) group = chainAfter (done ++ [group]) := by
            rw [chainAfter, chainAfter, List.foldl_append, List.foldl_cons, List.foldl_nil]
          rw [chain]
          refine ih (done ++ [group]) (by simp [order]) count _ ?_ ?_
          · intro joined member
            obtain ⟨scope, scopeMember, joinedMember⟩ := List.mem_flatMap.mp member
            exact step_partial engine tables player ordered done rest group order joinable unshifted scope
              joined (partly scope scopeMember) joinedMember
          · refine List.pairwise_flatMap.mpr ⟨fun scope member => ?_, ?_⟩
            · have own := (partly scope member).player
              refine (step_pairwise engine tables player ordered done rest group order joinable scope own
                (once group placed)).imp fun {one other} differ => ?_
              obtain ⟨first, firstMember, second, secondMember, same, _, given⟩ := differ
              exact ⟨first, firstMember, second, secondMember, same, by cases first.split <;> decide,
                given⟩
            · refine apart.imp_of_mem fun {one other} oneMember otherMember differ => ?_
              intro oneJoined oneJoinedMember otherJoined otherJoinedMember
              exact step_apart engine tables player ordered done rest group Split.all one other oneJoined
                otherJoined (partly one oneMember) (partly other otherMember)
                (joinable.apart group placed) oneJoinedMember otherJoinedMember differ

end StatTable.Plan
