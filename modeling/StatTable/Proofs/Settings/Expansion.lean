import StatTable.Proofs.Json.Numeral
import StatTable.Settings.Basic

set_option autoImplicit false

namespace StatTable

namespace Template

inductive Segment where
  | chunk (text : String)
  | braced (name : String)
  | bare (name : String)

namespace Segment

def chars : Segment → List Char
  | .chunk text => text.toList
  | .braced name => '$' :: '\x7b' :: (name.toList ++ ['\x7d'])
  | .bare name => '$' :: name.toList

def refers? : Segment → Option String
  | .chunk _ => none
  | .braced name | .bare name => some name

def value (values : String → Option String) : Segment → String
  | .chunk text => text
  | .braced name | .bare name => (values name).getD ""

-- A segment is well formed before a text.
def Fits (rest : List Char) : Segment → Prop
  | .chunk text => '$' ∉ text.toList
  | .braced name => name ≠ "" ∧ '\x7d' ∉ name.toList
  | .bare name => name ≠ "" ∧ (∀ c ∈ name.toList, isNameChar c = true) ∧
      ∀ c ∈ rest.head?, isNameChar c = false

def fits (rest : List Char) : Segment → Bool
  | .chunk text => !text.toList.contains '$'
  | .braced name => name != "" && !name.toList.contains '\x7d'
  | .bare name => name != "" && name.toList.all isNameChar && !rest.head?.any isNameChar

theorem fits_iff (rest : List Char) (segment : Segment) :
    segment.fits rest = true ↔ segment.Fits rest := by
  cases segment with
  | chunk text => simp [fits, Fits]
  | braced name => simp [fits, Fits]
  | bare name => simp [fits, Fits, and_assoc, Option.any_eq_false]

instance (rest : List Char) (segment : Segment) : Decidable (segment.Fits rest) :=
  decidable_of_iff _ (fits_iff rest segment)

def parts : Segment → Template
  | .chunk text => text.toList.map .literal
  | .braced name | .bare name => [.variable name.toList]

end Segment

def written (segments : List Segment) : List Char := segments.flatMap Segment.chars

def WellFormed : List Segment → Prop
  | [] => True
  | segment :: rest => segment.Fits (written rest) ∧ WellFormed rest

instance : (segments : List Segment) → Decidable (WellFormed segments)
  | [] => inferInstanceAs (Decidable True)
  | segment :: rest =>
      have : Decidable (WellFormed rest) := instDecidableWellFormed rest
      inferInstanceAs (Decidable (segment.Fits (written rest) ∧ WellFormed rest))

def firstUnset? (values : String → Option String) (segments : List Segment) : Option String :=
  (segments.filterMap Segment.refers?).find? fun name => (values name).isNone

theorem part_named (name : String) (named : name ≠ "") : part name.toList = .variable name.toList := by
  cases chars : name.toList with
  | nil => exact absurd (String.toList_eq_nil_iff.mp chars) named
  | cons => rfl

theorem chunk_read (text rest : List Char) (plain : '$' ∉ text) :
    ofChars (text ++ rest) = text.map .literal ++ ofChars rest := by
  induction text with
  | nil => rfl
  | cons c tail ih =>
      rw [List.mem_cons, not_or] at plain
      rw [List.cons_append, List.map_cons, List.cons_append, ← ih plain.2, ofChars]
      · exact fun _ same => absurd same.symm plain.1
      · exact fun same => absurd same.symm plain.1

theorem braced_read (name : String) (rest : List Char) (named : name ≠ "")
    (closes : '\x7d' ∉ name.toList) :
    ofChars ('$' :: '\x7b' :: (name.toList ++ '\x7d' :: rest)) =
      .variable name.toList :: ofChars rest := by
  have inside : ∀ c ∈ name.toList, (c != '\x7d') = true := fun c member =>
    bne_iff_ne.mpr fun same => closes (same ▸ member)
  obtain ⟨taken, left⟩ := Json.take_while_stops (· != '\x7d') name.toList ('\x7d' :: rest) inside
    (Json.stops_cons _ _ _ (by decide))
  rw [ofChars, taken, left, part_named name named, List.drop_one, List.tail_cons]

theorem bare_read (name : String) (rest : List Char) (named : name ≠ "")
    (all : ∀ c ∈ name.toList, isNameChar c = true) (ends : ∀ c ∈ rest.head?, isNameChar c = false) :
    ofChars ('$' :: (name.toList ++ rest)) = .variable name.toList :: ofChars rest := by
  have stop : Json.Stops isNameChar rest := fun c tail same => ends c (by rw [same]; rfl)
  obtain ⟨taken, left⟩ := Json.take_while_stops isNameChar name.toList rest all stop
  rw [ofChars, taken, left, part_named name named]
  -- No name starts with a brace, so this is no reference in braces.
  intro inner opened
  cases chars : name.toList with
  | nil => exact named (String.toList_eq_nil_iff.mp chars)
  | cons c tail =>
      rw [chars, List.cons_append, List.cons.injEq] at opened
      have brace : isNameChar '\x7b' = true := opened.1 ▸ all c (chars ▸ List.mem_cons_self)
      exact absurd brace (by decide +kernel)

theorem segment_read (segment : Segment) (rest : List Char) (fits : segment.Fits rest) :
    ofChars (segment.chars ++ rest) = segment.parts ++ ofChars rest := by
  cases segment with
  | chunk text => exact chunk_read text.toList rest fits
  | braced name =>
      rw [Segment.chars, List.cons_append, List.cons_append, List.append_assoc]
      exact braced_read name rest fits.1 fits.2
  | bare name => exact bare_read name rest fits.1 fits.2.1 fits.2.2

theorem segments_read (segments : List Segment) (formed : WellFormed segments) :
    ofChars (written segments) = segments.flatMap Segment.parts := by
  induction segments with
  | nil => rw [written, List.flatMap_nil, List.flatMap_nil, ofChars]
  | cons segment rest ih =>
      rw [written, List.flatMap_cons, List.flatMap_cons, ← ih formed.2]
      exact segment_read segment (written rest) formed.1

section

variable (values : String → Option String)

def fillChars (template : Template) : Except String (List Char) :=
  (template.mapM (fillPart values)).map List.flatten

theorem fill_chars (template : Template) :
    template.fill values = (fillChars values template).map String.ofList := by
  rw [fill, fillChars]
  cases template.mapM (fillPart values) <;> rfl

theorem fill_append (one other : Template) : fillChars values (one ++ other) =
    (fillChars values one).bind fun front => (fillChars values other).map (front ++ ·) := by
  rw [fillChars, fillChars, fillChars, List.mapM_append]
  cases one.mapM (fillPart values) with
  | error => rfl
  | ok fronts =>
      cases other.mapM (fillPart values) with
      | error => rfl
      | ok backs => exact congrArg Except.ok List.flatten_append

theorem fill_literals (text : List Char) :
    fillChars values (text.map .literal) = .ok text := by
  induction text with
  | nil => rfl
  | cons c rest ih =>
      have front : fillChars values [.literal c] = .ok [c] := rfl
      rw [List.map_cons, ← List.singleton_append, fill_append, front, ih]
      rfl

theorem fill_variable (name : String) : fillChars values [.variable name.toList] =
    match values name with
    | some value => .ok value.toList
    | none => .error name := by
  rw [fillChars, List.mapM_cons, fillPart, String.ofList_toList]
  cases values name with
  | none => rfl
  | some value => exact congrArg Except.ok (List.append_nil value.toList)

theorem fill_segment (segment : Segment) : fillChars values segment.parts =
    match firstUnset? values [segment] with
    | some name => .error name
    | none => .ok (segment.value values).toList := by
  have referred (name : String) : fillChars values [.variable name.toList] =
      match [name].find? fun name => (values name).isNone with
      | some name => .error name
      | none => .ok ((values name).getD "").toList := by
    rw [fill_variable]
    cases set : values name <;> simp [set]
  cases segment with
  | chunk text => exact fill_literals values text.toList
  | braced name => exact referred name
  | bare name => exact referred name

theorem first_unset_cons (segment : Segment) (rest : List Segment) :
    firstUnset? values (segment :: rest) =
      (firstUnset? values [segment]).or (firstUnset? values rest) := by
  rw [firstUnset?, ← List.singleton_append, List.filterMap_append, List.find?_append]
  rfl

theorem fill_segments (segments : List Segment) :
    fillChars values (segments.flatMap Segment.parts) =
      match firstUnset? values segments with
      | some name => .error name
      | none => .ok (String.join (segments.map (Segment.value values))).toList := by
  induction segments with
  | nil => rfl
  | cons segment rest ih =>
      rw [List.flatMap_cons, fill_append, fill_segment, ih, first_unset_cons values segment rest]
      cases firstUnset? values [segment] with
      | some name => rfl
      | none =>
          cases firstUnset? values rest with
          | some name => rfl
          | none =>
              rw [List.map_cons, String.join_cons, String.toList_append]
              rfl

end

end Template

namespace Settings

theorem template_expanded_once (values : String → Option String) (segments : List Template.Segment)
    (formed : Template.WellFormed segments) :
    expand values (Template.parse (String.ofList (Template.written segments))) =
      match Template.firstUnset? values segments with
      | some name => .error (.missingVariable name)
      | none => .ok (String.join (segments.map (Template.Segment.value values))) := by
  rw [expand, Template.parse, String.toList_ofList, Template.segments_read segments formed,
    Template.fill_chars, Template.fill_segments]
  cases Template.firstUnset? values segments with
  | some name => rfl
  | none => exact congrArg Except.ok String.ofList_toList

def dataPath : List Template.Segment :=
  [.braced "ROOT", .bare "DIR", .chunk "/", .bare "LEAGUE", .chunk ".db"]

def surroundings (name : String) : Option String :=
  [("ROOT", "/$DIR\x7d"), ("DIR", "x"), ("LEAGUE", "$\x7bROOT\x7d")].lookup name

theorem data_path_expanded : Template.WellFormed dataPath ∧
    expand surroundings (Template.parse "$\x7bROOT\x7d$DIR/$LEAGUE.db") =
      .ok "/$DIR\x7dx/$\x7bROOT\x7d.db" := by
  have formed : Template.WellFormed dataPath := by decide +kernel
  exact ⟨formed, template_expanded_once surroundings dataPath formed⟩

end Settings

end StatTable
