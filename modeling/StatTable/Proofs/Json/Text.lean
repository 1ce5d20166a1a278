import StatTable.Proofs.Json.Numeral

set_option autoImplicit false

namespace StatTable.Json

def codeChars (code : Nat) : List Char :=
  if code < 0x10 then ['0', '0', '0'] ++ hexChars code else ['0', '0'] ++ hexChars code

theorem code_chars_length : ∀ code < 0x20, (codeChars code).length = 4 := by decide

theorem code_chars_read : ∀ code < 0x20, hexNumber? (codeChars code) = some code := by decide

theorem read_code (code : Nat) (control : code < 0x20) (rest : List Char) :
    readPieces ('\\' :: 'u' :: codeChars code ++ rest) =
      (readPieces rest).map (prepend (.unit code)) := by
  have read := code_chars_read code control
  have length := code_chars_length code control
  generalize codeChars code = chars at read length
  match chars, length with
  | [a, b, c, d], _ =>
      simp only [List.cons_append, List.nil_append]
      rw [readPieces, read]

def Piece.Stands (piece : Piece) (c : Char) : Prop :=
  piece = .plain c ∨ piece = .unit c.toNat ∧ c.toNat < 0x20

theorem read_escaped (c : Char) (rest : List Char) :
    ∃ piece : Piece, piece.Stands c ∧
      readPieces (escapeChar c ++ rest) = (readPieces rest).map (prepend piece) := by
  -- Control characters without a short escape are written by their codes.
  by_cases control : c.toNat < 0x20 ∧ c ≠ '\n' ∧ c ≠ '\r' ∧ c ≠ '\t' ∧ c ≠ '\x08' ∧ c ≠ '\x0c'
  · obtain ⟨low, newline, carriage, tab, back, feed⟩ := control
    have unquoted : c ≠ '"' := by
      rintro rfl
      exact absurd low (by decide)
    have unslashed : c ≠ '\\' := by
      rintro rfl
      exact absurd low (by decide)
    refine ⟨.unit c.toNat, .inr ⟨rfl, low⟩, ?_⟩
    have escaped : escapeChar c = '\\' :: 'u' :: codeChars c.toNat := by
      rw [escapeChar, if_neg unquoted, if_neg unslashed, if_neg newline, if_neg carriage,
        if_neg tab, if_neg back, if_neg feed, codeChars]
      by_cases short : c.toNat < 0x10
      · rw [if_pos short, if_pos short]
        rfl
      · rw [if_neg short, if_neg short, if_pos low]
        rfl
    rw [escaped]
    exact read_code c.toNat low rest
  · refine ⟨.plain c, .inl rfl, ?_⟩
    by_cases quote : c = '"'
    · subst quote
      rfl
    by_cases slash : c = '\\'
    · subst slash
      rfl
    by_cases newline : c = '\n'
    · subst newline
      rfl
    by_cases carriage : c = '\r'
    · subst carriage
      rfl
    by_cases tab : c = '\t'
    · subst tab
      rfl
    by_cases back : c = '\x08'
    · subst back
      rfl
    by_cases feed : c = '\x0c'
    · subst feed
      rfl
    have printable : ¬ c.toNat < 0x20 := fun low =>
      control ⟨low, newline, carriage, tab, back, feed⟩
    have shorter : ¬ c.toNat < 0x10 := by omega
    rw [escapeChar, if_neg quote, if_neg slash, if_neg newline, if_neg carriage, if_neg tab,
      if_neg back, if_neg feed, if_neg shorter, if_neg printable, List.singleton_append]
    rw [readPieces.eq_def]
    split
    · rename_i same
      cases same
    · rename_i same
      exact absurd (List.cons.inj same).1 quote
    · rename_i same
      exact absurd (List.cons.inj same).1 slash
    · rename_i same
      exact absurd (List.cons.inj same).1 slash
    · rename_i same
      obtain ⟨rfl, rfl⟩ := List.cons.inj same
      rw [if_neg]
      rintro (low | same)
      · exact printable low
      · exact slash same

theorem read_pieces_quoted (cs rest : List Char) :
    ∃ pieces, List.Forall₂ Piece.Stands pieces cs ∧
      readPieces (cs.flatMap escapeChar ++ '"' :: rest) = some (pieces, rest) := by
  induction cs with
  | nil => exact ⟨[], .nil, rfl⟩
  | cons c cs ih =>
      obtain ⟨pieces, stand, read⟩ := ih
      obtain ⟨piece, first, step⟩ := read_escaped c (cs.flatMap escapeChar ++ '"' :: rest)
      refine ⟨piece :: pieces, .cons first stand, ?_⟩
      rw [List.flatMap_cons, List.append_assoc, step, read]
      rfl

theorem low_unit (code : Nat) (low : code < 0x20) :
    isLeading code = false ∧ isTrailing code = false := by
  simp only [isLeading, isTrailing, Bool.and_eq_false_iff, decide_eq_false_iff_not]
  omega

theorem join_unit (code : Nat) (low : code < 0x20) (pieces : List Piece) :
    joinPieces (.unit code :: pieces) = (joinPieces pieces).map (Char.ofNat code :: ·) := by
  obtain ⟨leading, trailing⟩ := low_unit code low
  conv_lhs => rw [joinPieces.eq_def]
  split
  · rename_i same
    cases same
  · rename_i same
    cases same
  · rename_i same
    obtain ⟨first, rfl⟩ := List.cons.inj same
    obtain rfl := Piece.unit.inj first
    rw [leading, trailing]
    rfl
  · rename_i same
    obtain ⟨first, rfl⟩ := List.cons.inj same
    obtain rfl := Piece.unit.inj first
    rw [leading, trailing]
    rfl

theorem join_standing (pieces : List Piece) (cs : List Char)
    (stand : List.Forall₂ Piece.Stands pieces cs) : joinPieces pieces = some cs := by
  induction stand with
  | nil => rfl
  | @cons piece c pieces cs first stand ih =>
      cases first with
      | inl plain => rw [plain, joinPieces, ih, Option.map_some]
      | inr unit => rw [unit.1, join_unit _ unit.2, ih, Option.map_some, Char.ofNat_toNat]

theorem read_string_quote (s : String) (rest : List Char) :
    readString (s.toList.flatMap escapeChar ++ '"' :: rest) = some (.string s, rest) := by
  obtain ⟨pieces, stand, read⟩ := read_pieces_quoted s.toList rest
  rw [readString, read]
  dsimp only
  rw [join_standing pieces s.toList stand, Option.map_some, String.ofList_toList]

theorem quote_append (s : String) (rest : List Char) :
    quote s ++ rest = '"' :: (s.toList.flatMap escapeChar ++ '"' :: rest) := by
  rw [quote, List.append_assoc]
  rfl

theorem quote_apart (s t : String) (rest after : List Char)
    (same : quote s ++ rest = quote t ++ after) : s = t ∧ rest = after := by
  rw [quote_append, quote_append] at same
  have read := read_string_quote s rest
  rw [(List.cons.inj same).2, read_string_quote t after] at read
  obtain ⟨token, tail⟩ := Prod.mk.inj (Option.some.inj read)
  exact ⟨(Token.string.inj token).symm, tail.symm⟩

def Numerals (cs : List Char) : Prop := ∀ c ∈ cs, isNumeral c = true

theorem digit_numeral (c : Char) (digit : isDigit c = true) : isNumeral c = true := by
  rw [isNumeral, digit]
  rfl

theorem take_digits_numerals (cs rest : List Char) (digits : List Nat)
    (taken : takeDigits cs = (digits, rest)) (after : Numerals rest) : Numerals cs := by
  obtain ⟨-, rfl⟩ := Prod.mk.inj taken
  intro c member
  rw [← List.takeWhile_append_dropWhile (p := isDigit) (l := cs)] at member
  cases List.mem_append.mp member with
  | inl first => exact digit_numeral c (List.all_eq_true.mp List.all_takeWhile c first)
  | inr second => exact after c second

theorem cons_numerals (c : Char) (cs : List Char) (first : isNumeral c = true)
    (rest : Numerals cs) : Numerals (c :: cs) := by
  intro d member
  cases List.mem_cons.mp member with
  | inl same => exact same ▸ first
  | inr tail => exact rest d tail

theorem nil_numerals : Numerals [] := by
  intro c member
  cases member

theorem exponent_numerals (cs : List Char) (read : (readExponent cs).isSome = true) :
    Numerals cs := by
  have unsigned : ∀ rest, (readSign cs).2 = rest → Numerals rest → Numerals cs := by
    rintro rest rfl numerals
    rw [readSign.eq_def] at numerals
    split at numerals
    · exact cons_numerals _ _ (by decide) numerals
    · exact cons_numerals _ _ (by decide) numerals
    · exact numerals
  apply unsigned _ rfl
  rw [readExponent] at read
  dsimp only at read
  split at read
  · cases read
  · rename_i digits taken
    exact take_digits_numerals _ _ _ taken nil_numerals
  · cases read

theorem tail_numerals (negative : Bool) (whole : List Nat) (fraction : Option (List Nat))
    (cs : List Char) (read : (readTail negative whole fraction cs).isSome = true) :
    Numerals cs := by
  cases cs with
  | nil => exact nil_numerals
  | cons c rest =>
      rw [readTail] at read
      by_cases letter : c = 'e' ∨ c = 'E'
      · rw [if_pos letter, Option.isSome_map] at read
        have first : isNumeral c = true := by
          cases letter with
          | inl small => exact small ▸ by decide
          | inr large => exact large ▸ by decide
        exact cons_numerals c rest first (exponent_numerals rest read)
      · rw [if_neg letter] at read
        cases read

theorem fraction_numerals (negative : Bool) (whole : List Nat) (cs : List Char)
    (read : (readFraction negative whole cs).isSome = true) : Numerals cs := by
  rw [readFraction.eq_def] at read
  split at read
  · split at read
    · cases read
    · rename_i taken
      exact cons_numerals _ _ (by decide)
        (take_digits_numerals _ _ _ taken (tail_numerals _ _ _ _ read))
  · exact tail_numerals _ _ _ _ read

theorem read_numerals (cs : List Char) (read : (Numeral.read cs).isSome = true) : Numerals cs := by
  rw [Numeral.read.eq_def] at read
  split at read
  rename_i negative rest sign
  have numerals : Numerals rest := by
    split at read
    · cases read
    · cases read
    · rename_i taken
      exact take_digits_numerals _ _ _ taken (fraction_numerals _ _ _ read)
  split at sign
  · obtain ⟨-, rfl⟩ := Prod.mk.inj sign
    exact cons_numerals _ _ (by decide) numerals
  · obtain ⟨-, rfl⟩ := Prod.mk.inj sign
    exact numerals

theorem number_numerals (n : Number) (finite : n.IsFinite) : Numerals n.chars ∧ n.chars ≠ [] := by
  have read : ∃ numeral, Numeral.read n.chars = some numeral := by
    cases n with
    | integer n =>
        obtain ⟨numeral, read, -⟩ := read_integer n
        exact ⟨numeral, read⟩
    | binary x =>
        obtain ⟨numeral, read, -⟩ := binary_reads x finite
        exact ⟨numeral, read⟩
  obtain ⟨numeral, read⟩ := read
  refine ⟨read_numerals _ (Option.isSome_of_eq_some read), ?_⟩
  intro nothing
  rw [nothing] at read
  cases read

mutual

def Value.IsFinite : Value → Prop
  | .number n => n.IsFinite
  | .array items => ItemsFinite items
  | .object members => MembersFinite members
  | .null | .bool _ | .string _ => True

def ItemsFinite : List Value → Prop
  | [] => True
  | item :: rest => item.IsFinite ∧ ItemsFinite rest

def MembersFinite : List (String × Value) → Prop
  | [] => True
  | (_, value) :: rest => value.IsFinite ∧ MembersFinite rest

end

inductive Shape where
  | null
  | bool (b : Bool)
  | number
  | string
  | array
  | object
deriving DecidableEq

def Value.shape : Value → Shape
  | .null => .null
  | .bool b => .bool b
  | .number _ => .number
  | .string _ => .string
  | .array _ => .array
  | .object _ => .object

def shapeOf? (c : Char) : Option Shape :=
  if isNumeral c then some .number
  else match c with
    | 'n' => some .null
    | 't' => some (.bool true)
    | 'f' => some (.bool false)
    | '"' => some .string
    | '[' => some .array
    | '\x7b' => some .object
    | _ => none

theorem number_starts (n : Number) (finite : n.IsFinite) :
    ∃ c rest, n.chars = c :: rest ∧ shapeOf? c = some .number := by
  obtain ⟨numerals, nonempty⟩ := number_numerals n finite
  cases chars : n.chars with
  | nil => exact absurd chars nonempty
  | cons c rest =>
      have numeral := numerals c (chars ▸ List.mem_cons_self)
      exact ⟨c, rest, rfl, if_pos numeral⟩

theorem chars_start (value : Value) (finite : value.IsFinite) :
    ∃ c rest, value.chars = c :: rest ∧ shapeOf? c = some value.shape := by
  cases value with
  | null => exact ⟨'n', "ull".toList, rfl, by decide⟩
  | bool b =>
      cases b with
      | true => exact ⟨'t', "rue".toList, rfl, by decide⟩
      | false => exact ⟨'f', "alse".toList, rfl, by decide⟩
  | number n => exact number_starts n finite
  | string s => exact ⟨'"', _, rfl, rfl⟩
  | array items => exact ⟨'[', _, rfl, rfl⟩
  | object members => exact ⟨'\x7b', _, rfl, rfl⟩

theorem same_shape (a b : Value) (aFinite : a.IsFinite) (bFinite : b.IsFinite)
    (rest after : List Char) (same : a.chars ++ rest = b.chars ++ after) : a.shape = b.shape := by
  obtain ⟨c, cs, aChars, aShape⟩ := chars_start a aFinite
  obtain ⟨d, ds, bChars, bShape⟩ := chars_start b bFinite
  rw [aChars, bChars] at same
  rw [(List.cons.inj same).1, bShape] at aShape
  exact (Option.some.inj aShape).symm

theorem chars_not_start (value : Value) (finite : value.IsFinite) (c : Char) (rest after : List Char)
    (none : shapeOf? c = none) : c :: rest ≠ value.chars ++ after := by
  obtain ⟨d, ds, chars, shape⟩ := chars_start value finite
  intro same
  rw [chars] at same
  rw [(List.cons.inj same).1, shape] at none
  cases none

def afterItem (items : List Value) (rest : List Char) : List Char :=
  match items with
  | [] => ']' :: rest
  | item :: more => ',' :: (itemChars (item :: more) ++ ']' :: rest)

def afterMember (members : List (String × Value)) (rest : List Char) : List Char :=
  match members with
  | [] => '\x7d' :: rest
  | member :: more => ',' :: (memberChars (member :: more) ++ '\x7d' :: rest)

theorem item_chars_cons (item : Value) (items : List Value) (rest : List Char) :
    itemChars (item :: items) ++ ']' :: rest = item.chars ++ afterItem items rest := by
  cases items with
  | nil => rw [itemChars, afterItem]
  | cons next more =>
      rw [itemChars, afterItem, List.append_assoc]
      · rfl
      · intro none
        cases none

theorem member_chars_cons (name : String) (value : Value) (members : List (String × Value))
    (rest : List Char) :
    memberChars ((name, value) :: members) ++ '\x7d' :: rest =
      quote name ++ ':' :: (value.chars ++ afterMember members rest) := by
  cases members with
  | nil =>
      rw [memberChars, afterMember, List.append_assoc]
      rfl
  | cons next more =>
      rw [memberChars, afterMember, List.append_assoc, List.append_assoc]
      · rfl
      · intro none
        cases none

theorem after_item_stops (items : List Value) (rest : List Char) :
    Stops isNumeral (afterItem items rest) := by
  cases items with
  | nil => exact stops_cons _ _ _ (by decide)
  | cons item more => exact stops_cons _ _ _ (by decide)

theorem after_member_stops (members : List (String × Value)) (rest : List Char) :
    Stops isNumeral (afterMember members rest) := by
  cases members with
  | nil => exact stops_cons _ _ _ (by decide)
  | cons member more => exact stops_cons _ _ _ (by decide)

theorem numbers_apart (m n : Number) (mFinite : m.IsFinite) (nFinite : n.IsFinite)
    (rest after : List Char) (restStops : Stops isNumeral rest) (afterStops : Stops isNumeral after)
    (same : m.chars ++ rest = n.chars ++ after) : m = n ∧ rest = after := by
  have left := take_while_stops isNumeral m.chars rest (number_numerals m mFinite).1 restStops
  have right := take_while_stops isNumeral n.chars after (number_numerals n nFinite).1 afterStops
  rw [same, right.1, right.2] at left
  exact ⟨number_chars_injective m n mFinite nFinite left.1.symm, left.2.symm⟩

mutual

theorem chars_apart (a b : Value) (aFinite : a.IsFinite) (bFinite : b.IsFinite)
    (rest after : List Char) (restStops : Stops isNumeral rest) (afterStops : Stops isNumeral after)
    (same : a.chars ++ rest = b.chars ++ after) : a = b ∧ rest = after := by
  have shape := same_shape a b aFinite bFinite rest after same
  match a, b, shape with
  | .null, .null, _ => exact ⟨rfl, List.append_cancel_left same⟩
  | .bool x, .bool y, shape =>
      obtain rfl := Shape.bool.inj shape
      exact ⟨rfl, List.append_cancel_left same⟩
  | .number m, .number n, _ =>
      obtain ⟨rfl, tail⟩ := numbers_apart m n aFinite bFinite rest after restStops afterStops same
      exact ⟨rfl, tail⟩
  | .string s, .string t, _ =>
      obtain ⟨rfl, tail⟩ := quote_apart s t rest after same
      exact ⟨rfl, tail⟩
  | .array items, .array others, _ =>
      rw [Value.chars, Value.chars, List.append_assoc, List.append_assoc] at same
      obtain ⟨rfl, tail⟩ := item_chars_apart items others aFinite bFinite rest after
        (List.cons.inj same).2
      exact ⟨rfl, tail⟩
  | .object members, .object others, _ =>
      rw [Value.chars, Value.chars, List.append_assoc, List.append_assoc] at same
      obtain ⟨rfl, tail⟩ := member_chars_apart members others aFinite bFinite rest after
        (List.cons.inj same).2
      exact ⟨rfl, tail⟩

theorem item_chars_apart (items others : List Value) (itemsFinite : ItemsFinite items)
    (othersFinite : ItemsFinite others) (rest after : List Char)
    (same : itemChars items ++ ']' :: rest = itemChars others ++ ']' :: after) :
    items = others ∧ rest = after := by
  match items, others with
  | [], [] => exact ⟨rfl, (List.cons.inj same).2⟩
  | [], other :: more =>
      rw [item_chars_cons] at same
      exact absurd same (chars_not_start other othersFinite.1 ']' _ _ (by decide))
  | item :: more, [] =>
      rw [item_chars_cons] at same
      exact absurd same.symm (chars_not_start item itemsFinite.1 ']' _ _ (by decide))
  | item :: more, other :: further =>
      rw [item_chars_cons, item_chars_cons] at same
      obtain ⟨rfl, tail⟩ := chars_apart item other itemsFinite.1 othersFinite.1 _ _
        (after_item_stops more rest) (after_item_stops further after) same
      match more, further with
      | [], [] => exact ⟨rfl, (List.cons.inj tail).2⟩
      | [], _ :: _ => exact absurd (List.cons.inj tail).1 (by decide)
      | _ :: _, [] => exact absurd (List.cons.inj tail).1 (by decide)
      | next :: more, follower :: further =>
          obtain ⟨equal, end_⟩ := item_chars_apart (next :: more) (follower :: further)
            itemsFinite.2 othersFinite.2 rest after (List.cons.inj tail).2
          exact ⟨by rw [equal], end_⟩

theorem member_chars_apart (members others : List (String × Value))
    (membersFinite : MembersFinite members) (othersFinite : MembersFinite others)
    (rest after : List Char)
    (same : memberChars members ++ '\x7d' :: rest = memberChars others ++ '\x7d' :: after) :
    members = others ∧ rest = after := by
  match members, others with
  | [], [] => exact ⟨rfl, (List.cons.inj same).2⟩
  | [], (name, value) :: more =>
      rw [member_chars_cons, quote_append] at same
      exact absurd (List.cons.inj same).1 (by decide)
  | (name, value) :: more, [] =>
      rw [member_chars_cons, quote_append] at same
      exact absurd (List.cons.inj same).1 (by decide)
  | (name, value) :: more, (other, image) :: further =>
      rw [member_chars_cons, member_chars_cons] at same
      obtain ⟨rfl, inner⟩ := quote_apart name other _ _ same
      obtain ⟨rfl, tail⟩ := chars_apart value image membersFinite.1 othersFinite.1 _ _
        (after_member_stops more rest) (after_member_stops further after) (List.cons.inj inner).2
      match more, further with
      | [], [] => exact ⟨rfl, (List.cons.inj tail).2⟩
      | [], _ :: _ => exact absurd (List.cons.inj tail).1 (by decide)
      | _ :: _, [] => exact absurd (List.cons.inj tail).1 (by decide)
      | next :: more, follower :: further =>
          obtain ⟨equal, end_⟩ := member_chars_apart (next :: more) (follower :: further)
            membersFinite.2 othersFinite.2 rest after (List.cons.inj tail).2
          exact ⟨by rw [equal], end_⟩

end

theorem text_injective (a b : Value) (aFinite : a.IsFinite) (bFinite : b.IsFinite)
    (same : a.text = b.text) : a = b := by
  have chars : a.chars = b.chars := String.ofList_injective same
  refine (chars_apart a b aFinite bFinite [] [] (stops_nil _) (stops_nil _) ?_).1
  rw [chars]

end StatTable.Json
