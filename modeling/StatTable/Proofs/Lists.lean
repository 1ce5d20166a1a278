import Mathlib.Algebra.GroupWithZero.Nat
import Mathlib.Data.List.Nodup
import Mathlib.Data.List.Pairwise
import Mathlib.Data.List.Perm.Basic

set_option autoImplicit false

namespace StatTable

theorem forall_right {α β : Type} (R : α → β → Prop) (as : List α) (bs : List β)
    (related : List.Forall₂ R as bs) (b : β) (member : b ∈ bs) : ∃ a ∈ as, R a b := by
  induction related with
  | nil => simp at member
  | cons head _ ih =>
      rcases List.mem_cons.mp member with rfl | later
      · exact ⟨_, by simp, head⟩
      · obtain ⟨a, aMember, holds⟩ := ih later
        exact ⟨a, by simp [aMember], holds⟩

theorem forall_left {α β : Type} (R : α → β → Prop) (as : List α) (bs : List β)
    (related : List.Forall₂ R as bs) (a : α) (member : a ∈ as) : ∃ b ∈ bs, R a b := by
  obtain ⟨b, bMember, holds⟩ := forall_right (fun b a => R a b) bs as related.flip a member
  exact ⟨b, bMember, holds⟩

theorem forall_both {α β γ : Type} (P : α → β → Prop) (Q : β → γ → Prop) (R : α → γ → Prop)
    (both : ∀ a b c, P a b → Q b c → R a c) (as : List α) (bs : List β) (cs : List γ)
    (first : List.Forall₂ P as bs) (second : List.Forall₂ Q bs cs) : List.Forall₂ R as cs := by
  induction first generalizing cs with
  | nil =>
      cases second
      exact .nil
  | cons head _ ih =>
      cases second with
      | cons head' tail => exact .cons (both _ _ _ head head') (ih _ tail)

theorem forall_get {α β : Type} (R : α → β → Prop) (as : List α) (bs : List β)
    (related : List.Forall₂ R as bs) (place : Nat) (a : α) (held : as[place]? = some a) :
    ∃ b, bs[place]? = some b ∧ R a b := by
  induction related generalizing place with
  | nil => cases held
  | @cons first b as bs head rest ih =>
      cases place with
      | zero =>
          obtain rfl := Option.some.inj held
          exact ⟨b, rfl, head⟩
      | succ place => exact ih place held

theorem forall_member {α β : Type} (R : α → β → Prop) (as : List α) (bs : List β)
    (related : List.Forall₂ R as bs) : List.Forall₂ (fun a b => R a b ∧ b ∈ bs) as bs := by
  induction related with
  | nil => exact .nil
  | cons head _ ih =>
      exact .cons ⟨head, List.mem_cons_self⟩
        (ih.imp fun _ _ both => ⟨both.1, List.mem_cons_of_mem _ both.2⟩)

theorem forall_exists {α β : Type} (R : α → β → Prop) (items : List α)
    (each : ∀ item ∈ items, ∃ b, R item b) : ∃ results, List.Forall₂ R items results := by
  induction items with
  | nil => exact ⟨[], .nil⟩
  | cons item rest ih =>
      obtain ⟨first, others⟩ := List.forall_mem_cons.mp each
      obtain ⟨b, related⟩ := first
      obtain ⟨results, further⟩ := ih others
      exact ⟨b :: results, .cons related further⟩

theorem forall_replaced {α β : Type} (R : α → β → Prop) (before after : List α) (one other : α)
    (each : ∀ b, R one b → R other b) (results : List β)
    (related : List.Forall₂ R (before ++ one :: after) results) :
    List.Forall₂ R (before ++ other :: after) results := by
  induction before generalizing results with
  | nil =>
      cases related with
      | cons first rest => exact .cons (each _ first) rest
  | cons head tail ih =>
      cases related with
      | cons first rest => exact .cons first (ih _ rest)

theorem map_of_related {α β : Type} (R : α → β → Prop) (back : β → α)
    (own : ∀ a b, R a b → back b = a) (as : List α) (bs : List β) (related : List.Forall₂ R as bs) :
    bs.map back = as := by
  have same : List.Forall₂ (fun b a => back b = a) bs as := related.flip.imp fun b a => own a b
  rwa [← List.forall₂_map_left_iff, List.forall₂_eq_eq_eq] at same

theorem map_related {α β γ : Type} (R : α → β → Prop) (f : α → γ) (g : β → γ) (as : List α)
    (bs : List β) (related : List.Forall₂ R as bs)
    (same : ∀ a b, b ∈ bs → R a b → g b = f a) : bs.map g = as.map f := by
  induction related with
  | nil => rfl
  | cons head _ ih =>
      rw [List.map_cons, List.map_cons, same _ _ (by simp) head,
        ih fun a b member => same a b (by simp [member])]

theorem filter_map_related {α β γ : Type} (R : α → β → Prop) (f : α → Option γ) (g : β → Option γ)
    (as : List α) (bs : List β) (related : List.Forall₂ R as bs)
    (same : ∀ a ∈ as, ∀ b ∈ bs, R a b → f a = g b) : as.filterMap f = bs.filterMap g := by
  induction related with
  | nil => rfl
  | @cons a b as bs first rest ih =>
      have tail := ih fun c cMember d dMember =>
        same c (List.mem_cons_of_mem _ cMember) d (List.mem_cons_of_mem _ dMember)
      rw [List.filterMap_cons, List.filterMap_cons, tail,
        same a List.mem_cons_self b List.mem_cons_self first]

theorem fold_alike {α β γ : Type} (R : α → β → Prop) (f : γ → α → γ) (g : γ → β → γ)
    (each : ∀ c a b, R a b → f c a = g c b) (items : List α) (others : List β)
    (related : List.Forall₂ R items others) (start : γ) :
    items.foldl f start = others.foldl g start := by
  induction related generalizing start with
  | nil => rfl
  | cons first _ ih => rw [List.foldl_cons, List.foldl_cons, each start _ _ first, ih]

theorem filter_map_each {α β : Type} (keep : α → Bool) (f : α → Option β) (R : α → β → Prop)
    (items : List α) (kept : ∀ a ∈ items, keep a = true → ∃ b, f a = some b ∧ R a b)
    (dropped : ∀ a ∈ items, keep a = false → f a = none) :
    List.Forall₂ R (items.filter keep) (items.filterMap f) := by
  induction items with
  | nil => exact .nil
  | cons a rest ih =>
      have further := ih (fun b member => kept b (List.mem_cons_of_mem _ member))
        fun b member => dropped b (List.mem_cons_of_mem _ member)
      cases held : keep a with
      | true =>
          obtain ⟨b, made, related⟩ := kept a List.mem_cons_self held
          rw [List.filter_cons_of_pos held, List.filterMap_cons_some made]
          exact .cons related further
      | false =>
          rw [List.filter_cons_of_neg (by simp [held]),
            List.filterMap_cons_none (dropped a List.mem_cons_self held)]
          exact further

theorem matched_perm {α β γ : Type} (R : α → β → Prop) (key : α → γ) (key' : β → γ)
    (keys : ∀ a b, R a b → key a = key' b) (as : List α) (bs : List β)
    (distinct : (as.map key).Nodup) (distinct' : (bs.map key').Nodup)
    (right : ∀ a ∈ as, ∃ b ∈ bs, R a b) (left : ∀ b ∈ bs, ∃ a ∈ as, R a b) :
    ∃ matched, matched.Perm bs ∧ List.Forall₂ R as matched := by
  induction as generalizing bs with
  | nil =>
      cases bs with
      | nil => exact ⟨[], .refl _, .nil⟩
      | cons b rest =>
          obtain ⟨a, absent, _⟩ := left b List.mem_cons_self
          exact absurd absent List.not_mem_nil
  | cons a as ih =>
      rw [List.forall_mem_cons] at right
      obtain ⟨⟨b, listed, related⟩, right⟩ := right
      -- The counterpart of the first element is none of the others', as its key is not theirs.
      obtain ⟨before, after, rfl⟩ := List.append_of_mem listed
      rw [List.map_cons, List.nodup_cons] at distinct
      rw [List.map_append, List.map_cons, List.nodup_middle, List.nodup_cons, ← List.map_append]
        at distinct'
      have others : ∀ other ∈ as, ∃ b' ∈ before ++ after, R other b' := by
        intro other member
        obtain ⟨b', listed', related'⟩ := right other member
        have apart : b' ≠ b := by
          rintro rfl
          refine distinct.1 (List.mem_map.mpr ⟨other, member, ?_⟩)
          rw [keys _ _ related', keys _ _ related]
        rw [List.mem_append, List.mem_cons] at listed'
        exact ⟨b', List.mem_append.mpr (listed'.imp_right fun held => held.resolve_left apart),
          related'⟩
      have others' : ∀ b' ∈ before ++ after, ∃ other ∈ as, R other b' := by
        intro b' listed'
        have held : b' ∈ before ++ b :: after :=
          List.mem_append.mpr ((List.mem_append.mp listed').imp_right (List.mem_cons_of_mem b))
        obtain ⟨other, member, related'⟩ := left b' held
        refine ⟨other, (List.mem_cons.mp member).resolve_left ?_, related'⟩
        rintro rfl
        refine distinct'.1 (List.mem_map.mpr ⟨b', listed', ?_⟩)
        rw [← keys _ _ related', ← keys _ _ related]
      obtain ⟨matched, perm, pairs⟩ := ih (before ++ after) distinct.2 distinct'.2 others others'
      exact ⟨b :: matched, (perm.cons b).trans List.perm_middle.symm, .cons related pairs⟩

theorem fold_append {α : Type} (items start : List α) :
    items.foldl (fun done item => done ++ [item]) start = start ++ items := by
  induction items generalizing start with
  | nil => simp
  | cons item rest ih => rw [List.foldl_cons, ih, List.append_assoc, List.singleton_append]

theorem filter_intercalate {α : Type} (keep : α → Bool) (gap : List α) (parts : List (List α))
    (dropped : gap.filter keep = []) :
    (List.intercalate gap parts).filter keep = parts.flatMap (·.filter keep) := by
  induction parts with
  | nil => rfl
  | cons part rest ih =>
      cases rest with
      | nil => rw [List.intercalate_singleton, List.flatMap_singleton]
      | cons second rest =>
          rw [List.intercalate_cons_cons, List.filter_append, List.filter_append, dropped, ih,
            List.append_nil]
          rfl

theorem get_concat {α : Type} (items : List α) (last item : α) (i : Nat) :
    (items ++ [last])[i]? = some item ↔ items[i]? = some item ∨ i = items.length ∧ item = last := by
  rcases Nat.lt_trichotomy i items.length with before | rfl | behind
  · rw [List.getElem?_append_left before]
    exact (or_iff_left fun own => Nat.ne_of_lt before own.1).symm
  · rw [List.getElem?_concat_length, List.getElem?_eq_none (Nat.le_refl _)]
    simp [eq_comm]
  · rw [List.getElem?_eq_none (by rw [List.length_append]; exact behind),
      List.getElem?_eq_none (Nat.le_of_lt behind)]
    exact (or_iff_left fun own => Nat.ne_of_gt behind own.1).symm

theorem flat_map_kept {α β : Type} (keep : α → Bool) (of all : α → List β) (items : List α)
    (same : ∀ item ∈ items, all item = if keep item then of item else []) :
    items.flatMap all = (items.filter keep).flatMap of := by
  induction items with
  | nil => rfl
  | cons item rest ih =>
      rw [List.flatMap_cons, same item (by simp), ih fun later member => same later (by simp [member])]
      cases kept : keep item with
      | true => rw [List.filter_cons_of_pos kept, List.flatMap_cons, if_pos rfl]
      | false => rw [List.filter_cons_of_neg (by simp [kept])]; rfl

theorem filter_middle {α : Type} (found : α → Bool) (before own after : List α)
    (left : ∀ item ∈ before, found item = false) (middle : ∀ item ∈ own, found item = true)
    (right : ∀ item ∈ after, found item = false) :
    (before ++ (own ++ after)).filter found = own ∧
      (before ++ (own ++ after)).filter (!found ·) = before ++ after := by
  constructor
  · rw [List.filter_append, List.filter_append, List.filter_eq_self.mpr middle,
      List.filter_eq_nil_iff.mpr fun item listed => Bool.eq_false_iff.mp (left item listed),
      List.filter_eq_nil_iff.mpr fun item listed => Bool.eq_false_iff.mp (right item listed),
      List.nil_append, List.append_nil]
  · have apart : own.filter (!found ·) = [] :=
      List.filter_eq_nil_iff.mpr fun item listed => by simp [middle item listed]
    rw [List.filter_append, List.filter_append, apart, List.nil_append,
      List.filter_eq_self.mpr fun item listed => by rw [left item listed]; rfl,
      List.filter_eq_self.mpr fun item listed => by rw [right item listed]; rfl]

theorem filter_named {α : Type} (name : α → String) (items : List α) (item : α)
    (distinct : (items.map name).Nodup) (member : item ∈ items) :
    items.filter (name · == name item) = [item] := by
  obtain ⟨before, after, rfl⟩ := List.append_of_mem member
  rw [List.map_append, List.map_cons, List.nodup_middle, List.nodup_cons, ← List.map_append] at distinct
  have others (rest : List α) (within : ∀ other ∈ rest, other ∈ before ++ after) :
      rest.filter (name · == name item) = [] :=
    List.filter_eq_nil_iff.mpr fun other listed same =>
      distinct.1 (List.mem_map.mpr ⟨other, within other listed, beq_iff_eq.mp same⟩)
  rw [List.filter_append, List.filter_cons, if_pos (beq_self_eq_true _),
    others before fun _ => List.mem_append_left _, others after fun _ => List.mem_append_right _,
    List.nil_append]

section

variable {α β : Type} [BEq α]

theorem lookup_replaced (before after : List (α × β)) (own key : α) (value other : β) :
    (before ++ (own, value) :: after).lookup key = (before ++ (own, other) :: after).lookup key ∨
      (before ++ (own, value) :: after).lookup key = some value ∧
        (before ++ (own, other) :: after).lookup key = some other := by
  induction before with
  | nil =>
      rw [List.nil_append, List.nil_append, List.lookup_cons, List.lookup_cons]
      cases key == own
      · exact .inl rfl
      · exact .inr ⟨rfl, rfl⟩
  | cons first rest ih =>
      rw [List.cons_append, List.cons_append, List.lookup_cons, List.lookup_cons]
      cases key == first.1
      · exact ih
      · exact .inl rfl

variable [LawfulBEq α]

theorem mem_of_lookup (items : List (α × β)) (key : α) (value : β)
    (found : items.lookup key = some value) : (key, value) ∈ items := by
  obtain ⟨before, after, rfl, -⟩ := List.lookup_eq_some_iff.mp found
  simp

theorem lookup_of_mem (items : List (α × β)) (key : α) (value : β)
    (distinct : (items.map Prod.fst).Nodup) (listed : (key, value) ∈ items) :
    items.lookup key = some value := by
  induction items with
  | nil => cases listed
  | cons first rest ih =>
      rw [List.map_cons, List.nodup_cons] at distinct
      rw [List.lookup_cons]
      rcases List.mem_cons.mp listed with rfl | later
      · rw [beq_self_eq_true]
      · have other : (key == first.1) = false := by
          rw [beq_eq_false_iff_ne]
          rintro rfl
          exact distinct.1 (List.mem_map.mpr ⟨_, later, rfl⟩)
        rw [other]
        exact ih distinct.2 later

theorem lookup_perm (items others : List (α × β)) (key : α)
    (distinct : (items.map Prod.fst).Nodup) (same : items.Perm others) :
    items.lookup key = others.lookup key := by
  have apart : (others.map Prod.fst).Nodup := (same.map Prod.fst).nodup_iff.mp distinct
  refine Option.ext fun value => ⟨fun found => ?_, fun found => ?_⟩
  · exact lookup_of_mem _ _ _ apart (same.mem_iff.mp (mem_of_lookup _ _ _ found))
  · exact lookup_of_mem _ _ _ distinct (same.mem_iff.mpr (mem_of_lookup _ _ _ found))

end

theorem lookup_agreeing {α β γ : Type} [BEq β] [LawfulBEq β] (name : α → β) (value : α → γ)
    (items : List α) (item : α) (member : item ∈ items)
    (agree : ∀ other ∈ items, name other = name item → value other = value item) :
    ((items.map name).zip (items.map value)).lookup (name item) = some (value item) := by
  induction items with
  | nil => exact absurd member List.not_mem_nil
  | cons first rest ih =>
      rw [List.map_cons, List.map_cons, List.zip_cons_cons, List.lookup_cons]
      by_cases same : name first = name item
      · rw [same, beq_self_eq_true, agree first List.mem_cons_self same]
      · have later : item ∈ rest :=
          (List.mem_cons.mp member).resolve_left fun here => same (congrArg name here.symm)
        rw [beq_false_of_ne (Ne.symm same)]
        exact ih later fun other listed => agree other (List.mem_cons_of_mem _ listed)

theorem drop_length {α : Type} (p : α → Bool) (items : List α) :
    (items.dropWhile p).length ≤ items.length :=
  (List.dropWhile_suffix p).length_le

theorem ranks_less (one other : List Nat) (less : compare one other = .lt) : one < other := by
  induction one generalizing other with
  | nil =>
      cases other with
      | nil => cases less
      | cons rank rest => exact List.nil_lt_cons rank rest
  | cons rank rest ih =>
      cases other with
      | nil => cases less
      | cons rank' rest' =>
          have parts := (List.compareLex_cons_cons).symm.trans less
          rw [Ordering.then_eq_lt, Nat.compare_eq_lt, Nat.compare_eq_eq] at parts
          rw [List.cons_lt_cons_iff]
          exact parts.imp_right fun ⟨same, later⟩ => ⟨same, ih rest' later⟩

theorem sum_owned (name : String) (names : List String) :
    (names.map fun other => if name = other then 1 else 0).sum = names.count name := by
  induction names with
  | nil => rfl
  | cons first rest ih =>
      rw [List.map_cons, List.sum_cons, ih, List.count_cons, Nat.add_comm]
      by_cases same : name = first
      · rw [if_pos same, if_pos (beq_iff_eq.mpr same.symm)]
      · rw [if_neg same, if_neg (mt beq_iff_eq.mp (Ne.symm same))]

theorem filter_of_pairwise {α : Type} (related : α → α → Bool) (items : List α)
    (refl : ∀ a, related a a = true) (symm : ∀ a b, related a b = true → related b a = true)
    (apart : items.Pairwise fun a b => related a b = false) (a : α) (member : a ∈ items) :
    items.filter (related a) = [a] := by
  induction items with
  | nil => simp at member
  | cons first rest ih =>
      obtain ⟨fromFirst, restApart⟩ := List.pairwise_cons.mp apart
      rcases List.mem_cons.mp member with rfl | later
      · rw [List.filter_cons_of_pos (refl a), List.filter_eq_nil_iff.mpr]
        intro b bMember
        simp [fromFirst b bMember]
      · rw [List.filter_cons_of_neg, ih restApart later]
        intro relates
        have back := symm a first relates
        rw [fromFirst a later] at back
        exact absurd back (by simp)

theorem one_at_most {α : Type} (apart : α → α → Prop) (items : List α)
    (pairwise : items.Pairwise apart) (close : ∀ a ∈ items, ∀ b ∈ items, ¬ apart a b) :
    items.length ≤ 1 := by
  cases items with
  | nil => simp
  | cons first rest =>
      cases rest with
      | nil => simp
      | cons second rest =>
          have different := (List.pairwise_cons.mp pairwise).1 second (by simp)
          exact absurd different (close first (by simp) second (by simp))

theorem head_related {α : Type} (related : α → α → Bool) (items : List α)
    (refl : ∀ a, related a a = true)
    (trans : ∀ a b c, related a b = true → related b c = true → related a c = true) (a : α)
    (member : a ∈ items) :
    ∃ head ∈ items.pwFilter fun a b => related a b = false, related a head = true := by
  by_contra absent
  have split : ∀ {x y z : α}, related x z = false → related x y = false ∨ related y z = false := by
    intro x y z different
    by_contra both
    rw [not_or, Bool.not_eq_false, Bool.not_eq_false] at both
    rw [trans x y z both.1 both.2] at different
    exact absurd different (by simp)
  have unrelated : ∀ b ∈ items.pwFilter fun a b => related a b = false, related a b = false :=
    fun b held => Bool.eq_false_iff.mpr fun relates => absent ⟨b, held, relates⟩
  have apart := (List.forall_mem_pwFilter (R := fun a b => related a b = false) split a items).mp
    unrelated a member
  rw [refl a] at apart
  exact absurd apart (by simp)

theorem class_picked {α : Type} (related : α → α → Bool) (items : List α) (hits : α → Bool)
    (refl : ∀ a, related a a = true)
    (trans : ∀ a b c, related a b = true → related b c = true → related a c = true)
    (close : ∀ a b, hits a = true → related a b = hits b) :
    ((items.pwFilter fun a b => related a b = false).filter hits).map
        (fun head => items.filter (related head)) =
      if items.filter hits = [] then [] else [items.filter hits] := by
  generalize chosen : (items.pwFilter fun a b => related a b = false).filter hits = heads
  have whole : ∀ head ∈ heads, items.filter (related head) = items.filter hits := by
    intro head member
    rw [← chosen] at member
    exact List.filter_congr fun b _ => close head b (List.mem_filter.mp member).2
  have few : heads.length ≤ 1 := by
    rw [← chosen]
    refine one_at_most (fun a b => related a b = false) _ ((List.pairwise_pwFilter _).filter _) ?_
    intro a aMember b bMember
    rw [close a b (List.mem_filter.mp aMember).2, (List.mem_filter.mp bMember).2]
    simp
  by_cases none : items.filter hits = []
  · have empty : heads = [] := by
      rw [← chosen]
      refine List.filter_eq_nil_iff.mpr fun a member => ?_
      exact List.filter_eq_nil_iff.mp none a (List.pwFilter_subset items member)
    rw [if_pos none, empty, List.map_nil]
  · obtain ⟨a, hit⟩ := List.exists_mem_of_ne_nil _ none
    obtain ⟨member, hit⟩ := List.mem_filter.mp hit
    obtain ⟨head, held, relates⟩ := head_related related items refl trans a member
    have listed : head ∈ heads := by
      rw [← chosen]
      exact List.mem_filter.mpr ⟨held, (close a head hit).symm.trans relates⟩
    obtain ⟨only, rfl⟩ : ∃ only, heads = [only] := by
      cases heads with
      | nil => simp at listed
      | cons first rest =>
          obtain rfl : rest = [] := by simpa using few
          exact ⟨first, rfl⟩
    rw [if_neg none, List.map_singleton, whole only (by simp)]

end StatTable
