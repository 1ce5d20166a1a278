import StatTable.Proofs.Documents.Exact
import StatTable.Proofs.Documents.Orders
import StatTable.Statement

set_option autoImplicit false

namespace StatTable

namespace Sql

def Query.unpaged (query : Query) : Query := { query with page := none }

theorem render_append (dialect : Dialect) (left right : List Token) :
    render dialect (left ++ right) = render dialect left ++ render dialect right := by
  rw [render, List.map_append, String.join_append]
  rfl

theorem render_count (dialect : Dialect) (word : Keyword) (count : UInt64) :
    render dialect (countTokens word count) =
      word.text ++ (" " ++ Text.decimal count.toInt64.toInt) := by
  simp [render, countTokens, Token.text]

theorem text_paged (dialect : Dialect) (query : Query) (page : Page)
    (paged : query.page = some page) : query.text dialect = query.unpaged.text dialect ++
      ("\n" ++ render dialect (pageTokens page.limit page.offset)) := by
  cases query with
  | mk withs selections source joins filter groupBy having orderBy held =>
      obtain rfl : held = some page := paged
      have line : ("\n" : String) = render dialect [.newline] := rfl
      rw [line, ← render_append, Query.text, Query.text, ← render_append]
      simp [Query.unpaged, Query.tokens, Query.bodyTokens, pageLine, Page.tokens,
        Dialect.page_tokens]

end Sql

theorem signed_word (count : UInt64) : count.toInt64.toInt =
    if count.toNat < 2 ^ 63 then (count.toNat : Int) else count.toNat - 2 ^ 64 := by
  rw [← Int64.toInt_toBitVec, UInt64.toBitVec_toInt64, BitVec.toInt_eq_toNat_cond,
    UInt64.toNat_toBitVec]
  have double : 2 * count.toNat < 2 ^ 64 ↔ count.toNat < 2 ^ 63 := by omega
  simp only [double]
  norm_cast

def Gives (document : Json.Value) (name : String) (usual count : Nat) : Prop :=
  (document.given? name = none ∧ count = usual) ∨
    ∃ member, document.given? name = some member ∧ member.Denotes count

theorem count_given (document : Json.Value) (standard : document.IsStandard) (name : String)
    (member : Json.Value) (count : UInt64) (usual : Nat) (found : document.given? name = some member)
    (read : TableState.countOfJson member = some count) :
    ∃ given, Gives document name usual given ∧ TableState.IsWordCount given ∧
      count.toNat = min given (UInt64.size - 1) := by
  have own := Json.standard_given document member name standard found
  obtain ⟨given, denotes, bounded, held⟩ := (TableState.count_ok member own count).mp read
  exact ⟨given, .inr ⟨member, found, denotes⟩, bounded, held⟩

theorem offset_given (limits : Limits) (document : Json.Value) (standard : document.IsStandard)
    (state : TableState) (reads : TableState.Reads limits document state) :
    ∃ offset, Gives document "offset" 0 offset ∧ TableState.IsWordCount offset ∧
      state.offset.toNat = min offset (UInt64.size - 1) := by
  rcases reads.offset with ⟨absent, start⟩ | ⟨member, found, read⟩
  · refine ⟨0, .inl ⟨absent, rfl⟩, Nat.zero_le _, ?_⟩
    rw [start, Nat.zero_min]
    rfl
  · exact count_given document standard "offset" member state.offset 0 found read

-- No limit is large enough to be cut.
theorem limit_given (limits : Limits) (document : Json.Value) (standard : document.IsStandard)
    (state : TableState) (reads : TableState.Reads limits document state)
    (signed : limits.maximum.toNat < 2 ^ 63) :
    Gives document "limit" limits.standard.toNat (state.limit.getD limits.standard).toNat := by
  rcases reads.limit with ⟨absent, unlimited⟩ | ⟨member, limit, found, read, -, within, limited⟩
  · rw [unlimited]
    exact .inl ⟨absent, rfl⟩
  · obtain ⟨given, gives, -, held⟩ :=
      count_given document standard "limit" member limit limits.standard.toNat found read
    have most : limit.toNat ≤ limits.maximum.toNat :=
      UInt64.le_iff_toNat_le.mp (UInt64.not_lt.mp within)
    have size : UInt64.size = 2 ^ 64 := rfl
    have exact : limit.toNat = given := by omega
    rw [limited, Option.getD_some, exact]
    exact gives

theorem limit_signed (limits : Limits) (document : Json.Value) (state : TableState)
    (reads : TableState.Reads limits document state) (standard : limits.standard.toNat < 2 ^ 63)
    (maximum : limits.maximum.toNat < 2 ^ 63) :
    (state.limit.getD limits.standard).toNat < 2 ^ 63 := by
  rcases reads.limit with ⟨-, unlimited⟩ | ⟨-, limit, -, -, -, within, limited⟩
  · rw [unlimited]
    exact standard
  · rw [limited]
    exact Nat.lt_of_le_of_lt (UInt64.le_iff_toNat_le.mp (UInt64.not_lt.mp within)) maximum

-- The number that is written for an offset: 2^64 is held as the largest word, and from 2^63 on the
-- word is a negative number.
def writtenOffset (offset : Nat) : Int :=
  let held := min offset (UInt64.size - 1)
  if held < 2 ^ 63 then held else held - 2 ^ 64

theorem written_offset_exact_iff (offset : Nat) : writtenOffset offset = offset ↔ offset < 2 ^ 63 := by
  have size : UInt64.size = 2 ^ 64 := rfl
  dsimp only [writtenOffset]
  split <;> omega

theorem written_offset_negative (offset : Nat) (large : 2 ^ 63 ≤ offset) : writtenOffset offset < 0 := by
  have size : UInt64.size = 2 ^ 64 := rfl
  dsimp only [writtenOffset]
  split <;> omega

def pageText (limit : Nat) (offset : Nat) : String :=
  "LIMIT " ++ Text.decimal limit ++
    if offset = 0 then "" else " OFFSET " ++ Text.decimal (writtenOffset offset)

namespace Plan

theorem compile_paged (defaults : Defaults) (limits : Limits) (state : TableState) (plan : QueryPlan)
    (ok : compile defaults limits state = .ok plan) :
    plan.limit = state.limit.getD limits.standard ∧ plan.offset = state.offset := by
  obtain ⟨_, _, ok⟩ := (bind_ok _ _ _).mp ok
  obtain ⟨_, _, ok⟩ := (bind_ok _ _ _).mp ok
  obtain ⟨_, _, ok⟩ := (bind_ok _ _ _).mp ok
  rw [← Except.ok.inj ok]
  exact ⟨rfl, rfl⟩

end Plan

namespace Statement

theorem page_text (dialect : Sql.Dialect) (plan : QueryPlan) (offset : Nat)
    (signed : plan.limit.toNat < 2 ^ 63) (held : plan.offset.toNat = min offset (UInt64.size - 1)) :
    Sql.render dialect (Sql.pageTokens plan.page.limit plan.page.offset) =
      pageText plan.limit.toNat offset := by
  have limit : Sql.render dialect (Sql.countTokens .limit plan.limit) =
      "LIMIT " ++ Text.decimal plan.limit.toNat := by
    rw [Sql.render_count, signed_word, if_pos signed, ← String.append_assoc]
    rfl
  have start : plan.offset = 0 ↔ offset = 0 := by
    have size : UInt64.size = 2 ^ 64 := rfl
    rw [← UInt64.toNat_inj, held, UInt64.toNat_zero]
    omega
  rw [pageText, QueryPlan.page]
  by_cases zero : offset = 0
  · rw [if_pos zero, if_pos (start.mpr zero), String.append_empty]
    exact limit
  · have number : plan.offset.toInt64.toInt = writtenOffset offset := by
      rw [signed_word, held]
      rfl
    have space : Sql.render dialect (.space :: Sql.countTokens .offset plan.offset) =
        " OFFSET " ++ Text.decimal (writtenOffset offset) := by
      rw [← List.singleton_append, Sql.render_append, Sql.render_count, number,
        ← String.append_assoc, ← String.append_assoc]
      rfl
    rw [if_neg zero, if_neg (start.not.mpr zero), ← limit, ← space, ← Sql.render_append]
    rfl

theorem state_paged (options : Options) (state : TableState) (statement : Statement) (offset : Nat)
    (ok : ofState options state = .ok statement)
    (signed : (state.limit.getD options.limits.standard).toNat < 2 ^ 63)
    (held : state.offset.toNat = min offset (UInt64.size - 1)) :
    statement.dialect = options.dialect ∧
      statement.text = statement.plan.query.unpaged.text options.dialect ++
        ("\n" ++ pageText (state.limit.getD options.limits.standard).toNat offset) := by
  obtain ⟨plan, planned, rfl⟩ := (map_ok _ _ _).mp ok
  obtain ⟨limit, start⟩ := Plan.compile_paged options.defaults options.limits state plan planned
  refine ⟨rfl, ?_⟩
  rw [← limit] at signed ⊢
  rw [← start] at held
  rw [← page_text options.dialect plan offset signed held]
  exact Sql.text_paged options.dialect plan.query plan.page rfl

structure EndsInPage (options : Options) (document : Json.Value) (statement : Statement)
    (limit offset : Nat) : Prop where
  limited : Gives document "limit" options.limits.standard.toNat limit
  placed : Gives document "offset" 0 offset
  dialect : statement.dialect = options.dialect
  text : statement.text = statement.plan.query.unpaged.text options.dialect ++
    ("\n" ++ pageText limit offset)
  exact : writtenOffset offset = offset ↔ offset < 2 ^ 63
  negative : 2 ^ 63 ≤ offset → writtenOffset offset < 0

-- A limit is always written as it is, an offset exactly if it is less than 2^63.
theorem document_paged (options : Options) (document : Json.Value) (statement : Statement)
    (standard : document.IsStandard) (usual : options.limits.standard.toNat < 2 ^ 63)
    (maximum : options.limits.maximum.toNat < 2 ^ 63) (ok : ofJson options document = .ok statement) :
    ∃ limit offset, statement.EndsInPage options document limit offset := by
  rw [ofJson, bind_ok] at ok
  obtain ⟨state, read, compiled⟩ := ok
  rw [map_error_ok] at read compiled
  have reads := (TableState.of_json_reads options.limits document state).mp read
  obtain ⟨offset, given, -, held⟩ := offset_given options.limits document standard state reads
  have signed := limit_signed options.limits document state reads usual maximum
  obtain ⟨dialect, text⟩ := state_paged options state statement offset compiled signed held
  exact ⟨_, offset,
    { limited := limit_given options.limits document standard state reads maximum
      placed := given
      dialect := dialect
      text := text
      exact := written_offset_exact_iff offset
      negative := written_offset_negative offset }⟩

def thirdPage : Json.Value :=
  .object [("columns", .array [.string "player_name"]), ("limit", .number (.binary (Binary64.ofInt 25))),
    ("offset", .number (.integer 50))]

theorem third_page_written : thirdPage.IsStandard ∧ Options.standard.limits.standard.toNat < 2 ^ 63 ∧
    Options.standard.limits.maximum.toNat < 2 ^ 63 ∧
      ∃ statement, ofJson .standard thirdPage = .ok statement ∧
        ∃ limit offset, statement.EndsInPage .standard thirdPage limit offset := by
  have finite : (Binary64.ofInt 25).isFinite = true := by decide +kernel
  have standard : thirdPage.IsStandard := by
    simpa [thirdPage, Json.Value.IsStandard, Json.ItemsStandard, Json.MembersStandard,
      Json.Number.IsStandard] using finite
  have usual : Options.standard.limits.standard.toNat < 2 ^ 63 := by decide
  have maximum : Options.standard.limits.maximum.toNat < 2 ^ 63 := by decide
  have accepted : (ofJson .standard thirdPage).isOk = true := by decide +kernel
  cases written : ofJson .standard thirdPage with
  | error refusal =>
      rw [written] at accepted
      cases accepted
  | ok statement =>
      exact ⟨standard, usual, maximum, statement, rfl,
        document_paged .standard thirdPage statement standard usual maximum written⟩

theorem ends_in (body page : String) : page.toList <:+ (body ++ page).toList := by
  rw [String.toList_append]
  exact List.suffix_append _ _

def farPage : Json.Value := .object [("offset", .number (.integer (2 ^ 63)))]

def farState : TableState := { TableState.empty with offset := UInt64.ofNat (2 ^ 63) }

theorem far_page_read : TableState.ofJson .usual farPage = .ok farState := rfl

theorem far_page_negative : Gives farPage "offset" 0 (2 ^ 63) ∧
    ∃ statement, ofJson .standard farPage = .ok statement ∧
      ¬ (" OFFSET " ++ Text.decimal (2 ^ 63 : Nat)).toList <:+ statement.text.toList ∧
      (" OFFSET " ++ Text.decimal (-2 ^ 63)).toList <:+ statement.text.toList := by
  have compiles : (ofState .standard farState).isOk = true := by decide +kernel
  cases compiled : ofState .standard farState with
  | error error =>
      rw [compiled] at compiles
      cases compiles
  | ok statement =>
      have ok : ofJson .standard farPage = .ok statement := by
        rw [ofJson, bind_ok]
        exact ⟨farState, (map_error_ok _ _ _).mpr far_page_read, (map_error_ok _ _ _).mpr compiled⟩
      let page := "\n" ++ pageText 500 (2 ^ 63)
      obtain ⟨-, text⟩ :=
        state_paged .standard farState statement (2 ^ 63) compiled (by decide) (by decide)
      have last : page.toList <:+ statement.text.toList := by
        rw [text]
        exact ends_in _ page
      have other : ¬ (" OFFSET " ++ Text.decimal (2 ^ 63 : Nat)).toList <:+ page.toList := by
        decide +kernel
      have shorter : (" OFFSET " ++ Text.decimal (2 ^ 63 : Nat)).toList.length ≤
          page.toList.length := by
        decide +kernel
      have negative : (" OFFSET " ++ Text.decimal (-2 ^ 63)).toList <:+ page.toList := by
        decide +kernel
      exact ⟨.inr ⟨.number (.integer (2 ^ 63)), rfl, rfl⟩, statement, ok,
        fun exact => other (List.suffix_of_suffix_length_le exact last shorter),
        negative.trans last⟩

end Statement

end StatTable
