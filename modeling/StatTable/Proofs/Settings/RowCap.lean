import StatTable.Proofs.Statements.Paging
import StatTable.Settings.Reading

/-
How many rows a statement may return. The settings bound the limit of a table that names none, the
reader of documents the limit of one that does, and what is compiled takes the limit as it finds it.
Together they keep every statement between one row and the largest limit of the settings.
-/

set_option autoImplicit false

namespace StatTable

namespace Settings

theorem check_limits (settings checked : Settings) (ok : settings.check = .ok checked) :
    checked = settings ∧ 0 < settings.query.limits.standard.toNat ∧
      settings.query.limits.standard.toNat ≤ settings.query.limits.maximum.toNat := by
  simp only [check] at ok
  split at ok
  · cases ok
  · rename_i some
    split at ok
    · cases ok
    · rename_i within
      split at ok
      · cases ok
      · refine ⟨(Except.ok.inj ok).symm, ?_, UInt64.le_iff_toNat_le.mp (UInt64.not_lt.mp within)⟩
        exact Nat.pos_of_ne_zero fun zero => some (UInt64.toNat_inj.mp zero)

theorem of_toml_reads (text : String) (settings : Settings) (ok : ofToml text = .ok settings) :
    (Toml.read text).bind ofMembers = some settings ∧ settings.check = .ok settings := by
  rw [ofToml] at ok
  split at ok
  · rename_i found read
    obtain ⟨rfl, -⟩ := check_limits found settings ok
    exact ⟨read, ok⟩
  · cases ok

def querySection (text : String) : Option Section :=
  (Toml.read text).bind fun document =>
    sectionOf ["default_limit", "max_limit", "dialect", "timeout_seconds"] (document.lookup "query")

def isSigned : Toml.Value → Bool
  | .integer n => decide (n < 2 ^ 63)
  | _ => true

-- Whether the fields that count something are read from integers that a signed word can hold. What
-- the section has besides does not matter.
def readsSigned (text : String) : Bool :=
  (querySection text).all fun fields =>
    ["default_limit", "max_limit", "timeout_seconds"].all fun name =>
      (fields.lookup name).all isSigned

theorem count_signed (value : Toml.Value) (count : UInt64) (signed : isSigned value = true)
    (read : count? value = some count) : count.toNat < 2 ^ 63 := by
  cases value with
  | integer n =>
      rw [count?] at read
      split at read
      · rename_i held
        have small : n < 2 ^ 63 := of_decide_eq_true signed
        rw [← Option.some.inj read, UInt64.toNat_ofNat_of_lt' (by omega)]
        omega
      · cases read
  | _ => cases read

theorem maximum_signed (text : String) (settings : Settings)
    (read : (Toml.read text).bind ofMembers = some settings) (signed : readsSigned text = true) :
    settings.query.limits.maximum.toNat < 2 ^ 63 := by
  obtain ⟨document, parsed, read⟩ := Option.bind_eq_some_iff.mp read
  obtain ⟨members, fits, read⟩ := Option.bind_eq_some_iff.mp read
  obtain ⟨query, queried, read⟩ := Option.bind_eq_some_iff.mp read
  obtain ⟨_, -, read⟩ := Option.bind_eq_some_iff.mp read
  obtain ⟨_, -, read⟩ := Option.bind_eq_some_iff.mp read
  obtain rfl := Option.some.inj read
  obtain ⟨fields, listed, queried⟩ := Option.bind_eq_some_iff.mp queried
  obtain ⟨_, -, queried⟩ := Option.bind_eq_some_iff.mp queried
  obtain ⟨maximum, most, queried⟩ := Option.bind_eq_some_iff.mp queried
  obtain ⟨_, -, queried⟩ := Option.bind_eq_some_iff.mp queried
  obtain ⟨_, -, queried⟩ := Option.bind_eq_some_iff.mp queried
  obtain rfl := Option.some.inj queried
  have own : members = document := by
    rw [checkIgnored] at fits
    split at fits
    · exact (Option.some.inj fits).symm
    · cases fits
  rw [readsSigned, querySection, parsed, Option.bind_some, ← own, listed, Option.all_some,
    List.all_eq_true] at signed
  have largest := signed "max_limit" (by simp)
  rw [readField] at most
  split at most
  · obtain rfl := Option.some.inj most
    exact (by decide : Limits.usual.maximum.toNat < 2 ^ 63)
  · rename_i value found
    rw [found] at largest
    exact count_signed value maximum largest most

end Settings

namespace Statement

structure Capped (settings : Settings) (document : Json.Value) (statement : Statement) : Prop where
  positive : 1 ≤ statement.plan.limit.toNat
  within : statement.plan.limit.toNat ≤ settings.query.limits.maximum.toNat
  given : ∀ member, document.given? "limit" = some member →
    member.Denotes statement.plan.limit.toNat
  usual : document.given? "limit" = none → statement.plan.limit = settings.query.limits.standard
  written : ∃ offset, statement.text =
    statement.plan.query.unpaged.text settings.query.dialect ++
      ("\n" ++ pageText statement.plan.limit.toNat offset)

theorem limit_within (limits : Limits) (document : Json.Value) (state : TableState)
    (reads : TableState.Reads limits document state) (some : 0 < limits.standard.toNat)
    (within : limits.standard.toNat ≤ limits.maximum.toNat) :
    1 ≤ (state.limit.getD limits.standard).toNat ∧
      (state.limit.getD limits.standard).toNat ≤ limits.maximum.toNat := by
  rcases reads.limit with ⟨-, unlimited⟩ | ⟨-, limit, -, -, nonzero, most, limited⟩
  · rw [unlimited]
    exact ⟨some, within⟩
  · rw [limited]
    refine ⟨Nat.pos_of_ne_zero fun zero => nonzero (UInt64.toNat_inj.mp zero), ?_⟩
    exact UInt64.le_iff_toNat_le.mp (UInt64.not_lt.mp most)

theorem settings_cap_rows (text : String) (settings : Settings) (document : Json.Value)
    (statement : Statement) (loaded : Settings.ofToml text = .ok settings)
    (signed : Settings.readsSigned text = true) (standard : document.IsStandard)
    (ok : ofJson settings.options document = .ok statement) :
    statement.Capped settings document := by
  obtain ⟨read, checked⟩ := Settings.of_toml_reads text settings loaded
  obtain ⟨-, some, most⟩ := Settings.check_limits settings settings checked
  have maximum := Settings.maximum_signed text settings read signed
  obtain ⟨state, found, compiled⟩ := (bind_ok _ _ _).mp ok
  rw [map_error_ok] at found compiled
  have reads := (TableState.of_json_reads _ document state).mp found
  have limits := limit_within _ document state reads some most
  have gives := limit_given _ document standard state reads maximum
  obtain ⟨offset, -, -, held⟩ := offset_given _ document standard state reads
  obtain ⟨-, written⟩ := state_paged settings.options state statement offset compiled
    (Nat.lt_of_le_of_lt limits.2 maximum) held
  obtain ⟨plan, planned, rfl⟩ := (map_ok _ _ _).mp compiled
  obtain ⟨taken, -⟩ := Plan.compile_paged _ _ state plan planned
  rw [← taken] at limits gives written
  refine ⟨limits.1, limits.2, fun member given => ?_, fun absent => ?_, offset, written⟩
  · rcases gives with ⟨absent, -⟩ | ⟨other, own, denotes⟩
    · rw [given] at absent
      cases absent
    · obtain rfl := Option.some.inj (given.symm.trans own)
      exact denotes
  · rcases gives with ⟨-, usual⟩ | ⟨other, own, -⟩
    · exact UInt64.toNat_inj.mp usual
    · rw [absent] at own
      cases own

def cappedSettings : String := "[query]\ndefault_limit = 20\nmax_limit = 50\n"

def fullTable : Json.Value :=
  .object [("columns", .array [.string "rush_yards"]),
    ("limit", .number (.binary (Binary64.ofInt 50)))]

theorem full_table_capped : ∃ settings statement, Settings.ofToml cappedSettings = .ok settings ∧
    Settings.readsSigned cappedSettings = true ∧ fullTable.IsStandard ∧
    ofJson settings.options fullTable = .ok statement ∧ statement.Capped settings fullTable := by
  have finite : (Binary64.ofInt 50).isFinite = true := by decide +kernel
  have standard : fullTable.IsStandard := by
    simpa [fullTable, Json.Value.IsStandard, Json.ItemsStandard, Json.MembersStandard,
      Json.Number.IsStandard] using finite
  have signed : Settings.readsSigned cappedSettings = true := by decide +kernel
  have accepted : ((Settings.ofToml cappedSettings).toOption.any fun settings =>
      (ofJson settings.options fullTable).isOk) = true := by decide +kernel
  cases loaded : Settings.ofToml cappedSettings with
  | error problem =>
      rw [loaded] at accepted
      cases accepted
  | ok settings =>
      rw [loaded] at accepted
      cases written : ofJson settings.options fullTable with
      | error refusal =>
          rw [Except.toOption, Option.any_some, written] at accepted
          cases accepted
      | ok statement =>
          exact ⟨settings, statement, rfl, signed, standard, written,
            settings_cap_rows cappedSettings settings fullTable statement loaded signed standard
              written⟩

end Statement

end StatTable
