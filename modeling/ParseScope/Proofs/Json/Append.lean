import ParseScope.Proofs.Json.Token

/-!
Texts behind one another. The tokens of a text stay the same with more text behind it, as long as
they are whole and no number goes on there.
-/
namespace ParseScope.Json

/-- No number goes on with the text. -/
structure Stops (text : List Char) : Prop where
  digits : text.takeWhile Char.isDigit = []
  fraction : ∀ numeral, fraction? numeral text = scanned numeral text
  exponent : ∀ numeral, exponent? numeral text = scanned numeral text

theorem Ends.stops {text : List Char} (ends : Ends text) : Stops text where
  digits := ends.takeWhile_isDigit
  fraction := ends.fraction?
  exponent := by cases ends <;> exact fun _ => rfl

theorem stops_colon (text : List Char) : Stops (':' :: text) := ⟨rfl,fun _ => rfl,fun _ => rfl⟩

theorem Stops.head? {text : List Char} (stops : Stops text) :
    text.head?.any Char.isDigit = false := by
  cases text with
  | nil => rfl
  | cons c rest =>
    have digits := stops.digits
    rw [List.takeWhile_cons] at digits
    split at digits
    · cases digits
    · next other => simpa using other

/-! ### Digits -/

section Digits

variable {behind : List Char} (stops : Stops behind) (text : List Char)

include stops

theorem Stops.takeWhile_append :
    (text ++ behind).takeWhile Char.isDigit = text.takeWhile Char.isDigit := by
  rw [List.takeWhile_append,stops.digits,List.append_nil]
  split
  · next all => rw [List.takeWhile_prefix _ |>.eq_of_length all]
  · rfl

theorem Stops.dropWhile_append :
    (text ++ behind).dropWhile Char.isDigit = text.dropWhile Char.isDigit ++ behind := by
  have kept : behind.dropWhile Char.isDigit = behind := by
    simpa [stops.digits] using List.takeWhile_append_dropWhile (p := Char.isDigit) (l := behind)
  rw [List.dropWhile_append,kept]
  split
  · next all => rw [List.isEmpty_iff.mp all,List.nil_append]
  · rfl

end Digits

/-! ### Words and literals -/

theorem scanWord_append (expected text rest behind : List Char)
    (found : scanWord expected text = .ok rest) :
    scanWord expected (text ++ behind) = .ok (rest ++ behind) := by
  fun_induction scanWord expected text with
  | case1 text =>
    obtain rfl := Except.ok.inj found
    rw [scanWord]
  | case2 => cases found
  | case3 expected more rest ih =>
    rw [List.cons_append,scanWord]
    simpa using ih found
  | case4 => cases found

/-- A closed literal is the same whatever follows its quote. -/
theorem Literal.scan_append (text behind : List Char)
    (closed : (Literal.scan text).ending = .closed) :
    Literal.scan (text ++ behind) =
      ⟨(Literal.scan text).units,.closed,(Literal.scan text).rest ++ behind⟩ := by
  fun_induction Literal.scan text with
  | case1 | case4 | case7 | case8 | case9 => cases closed
  | case2 rest => rw [List.cons_append,Literal.scan]
  | case3 a b c d rest code found ih =>
    simp [Literal.scan,Literal.push,found,ih closed]
  | case5 rest short =>
    dsimp only at closed
    split at closed
    · cases closed
    · cases closed
  | case6 c rest _ other character escaped ih =>
    rw [List.cons_append,List.cons_append,Literal.scan]
    · simp [Literal.push,escaped,ih closed]
    · exact fun _ _ _ _ _ unicode _ => other unicode
    · exact other
  | case10 c rest quote _ _ escape ending control ih =>
    have plain : c ≠ '\\' := by
      rintro rfl
      cases rest with
      | nil => exact ending rfl rfl
      | cons d more => exact escape d more rfl rfl
    rw [List.cons_append,Literal.scan]
    · simp [Literal.push,control,ih closed]
    · exact quote
    all_goals
      intros
      contradiction

/-! ### Tokens -/

/-- The token can be skipped. -/
def Token.Whole : Token → Prop
  | .string piece => piece.broken = none
  | .scalar piece => piece.broken = none
  | .stray => False
  | _ => True

/-- After a whole token a scan leaves the rest of the text, and the longer one leaves more. -/
def Scan.Extends (behind : List Char) (scan longer : Scan) : Prop :=
  scan.1.Whole → ∃ rest, scan.2 = some rest ∧ longer = (scan.1,some (rest ++ behind))

namespace Scan

variable {behind : List Char}

theorem extends_some (token : Token) (rest : List Char) :
    Extends behind (token,some rest) (token,some (rest ++ behind)) := fun _ => ⟨rest,rfl,rfl⟩

theorem extends_fail (fault : Fault) (longer : Scan) :
    Extends behind (.scalar (.fail fault),none) longer := nofun

theorem extends_failNumber (text : List Char) (longer : Scan) :
    Extends behind (.scalar (.failNumber text),none) longer := nofun

theorem extends_ite {p : Prop} [Decidable p] {a b c d : Scan} (first : Extends behind a c)
    (second : Extends behind b d) :
    Extends behind (if p then a else b) (if p then c else d) := by
  split
  · exact first
  · exact second

/-- Digits that are read, and what follows them. -/
theorem extends_digits (stops : Stops behind) (next : List Char → List Char → Scan)
    (each : ∀ digits rest, Extends behind (next digits rest) (next digits (rest ++ behind)))
    (text : List Char) :
    Extends behind
      (if (text.takeWhile Char.isDigit).isEmpty then (.scalar (.failNumber text),none)
        else next (text.takeWhile Char.isDigit) (text.dropWhile Char.isDigit))
      (if ((text ++ behind).takeWhile Char.isDigit).isEmpty
        then (.scalar (.failNumber (text ++ behind)),none)
        else next ((text ++ behind).takeWhile Char.isDigit)
          ((text ++ behind).dropWhile Char.isDigit)) := by
  rw [stops.takeWhile_append,stops.dropWhile_append]
  exact extends_ite (extends_failNumber _ _) (each _ _)

theorem extends_exponent (stops : Stops behind) (numeral : Numeral) (text : List Char) :
    Extends behind (exponent numeral text) (exponent numeral (text ++ behind)) := by
  have signed (negative : Bool) (text : List Char) := extends_digits stops
    (fun digits rest => scanned { numeral with
      isDecimal := true, exponentNegative := negative, exponent := digits } rest)
    (fun digits rest => extends_some _ rest) text
  cases text with
  | nil => exact extends_failNumber [] _
  | cons c rest =>
    by_cases minus : c = '-'
    · subst minus
      exact signed true rest
    by_cases plus : c = '+'
    · subst plus
      exact signed false rest
    · have plain := signed false (c :: rest)
      simpa [exponent,minus,plus] using plain

theorem extends_exponent? (stops : Stops behind) (numeral : Numeral) (text : List Char) :
    Extends behind (exponent? numeral text) (exponent? numeral (text ++ behind)) := by
  cases text with
  | nil => exact fun _ => ⟨[],rfl,stops.exponent numeral⟩
  | cons c rest => exact extends_ite (extends_exponent stops numeral rest) (extends_some _ _)

theorem extends_fraction? (stops : Stops behind) (numeral : Numeral) (text : List Char) :
    Extends behind (fraction? numeral text) (fraction? numeral (text ++ behind)) := by
  cases text with
  | nil => exact fun _ => ⟨[],rfl,stops.fraction numeral⟩
  | cons c rest =>
    by_cases point : c = '.'
    · subst point
      exact extends_digits stops (fun digits rest => exponent?
        { numeral with fraction := digits, isDecimal := true } rest)
        (fun digits rest => extends_exponent? stops _ rest) rest
    · simpa [fraction?,point] using extends_exponent? stops numeral (c :: rest)

theorem extends_number (stops : Stops behind) (negative : Bool) (text : List Char) :
    Extends behind (number negative text) (number negative (text ++ behind)) := by
  cases text with
  | nil => exact extends_failNumber [] _
  | cons c rest =>
    by_cases zero : c = '0'
    · subst zero
      have head : (rest ++ behind).head?.any Char.isDigit = rest.head?.any Char.isDigit := by
        cases rest with
        | nil => exact stops.head?
        | cons c rest => rfl
      rw [List.cons_append,number,number,head]
      exact extends_ite (extends_fail _ _) (extends_fraction? stops _ rest)
    · have digits := extends_digits stops
        (fun digits rest => fraction? ⟨negative,digits,[],false,false,[]⟩ rest)
        (fun digits rest => extends_fraction? stops _ rest) (c :: rest)
      simpa [number,zero] using digits

theorem extends_word (value : Scalar) (ending text : List Char) :
    Extends behind (word value ending text) (word value ending (text ++ behind)) := by
  unfold word
  cases found : scanWord ending text with
  | error fault => exact extends_fail _ _
  | ok rest =>
    rw [scanWord_append ending text rest behind found]
    exact extends_some _ _

theorem extends_stringToken (text : List Char) :
    Extends behind (stringToken text) (stringToken (text ++ behind)) := by
  rw [stringToken]
  cases ending : (Literal.scan text).ending.fault? with
  | some fault => exact fun whole => absurd whole (Option.some_ne_none fault)
  | none =>
    have closed : (Literal.scan text).ending = .closed := by
      cases same : (Literal.scan text).ending with
      | closed => rfl
      | cut | control | badEscape | badHex => simp [same,LiteralEnd.fault?] at ending
    rw [stringToken,Literal.scan_append text behind closed]
    simp [Extends,Literal.text,closed,LiteralEnd.fault?]

theorem extends_scanToken (stops : Stops behind) (c : Char) (rest : List Char) :
    Extends behind (scanToken c rest) (scanToken c (rest ++ behind)) := by
  unfold scanToken
  iterate 6 refine extends_ite (extends_some _ _) ?_
  refine extends_ite (extends_stringToken rest) ?_
  iterate 3 refine extends_ite (extends_word _ _ rest) ?_
  refine extends_ite (extends_number stops true rest) ?_
  exact extends_ite (extends_number stops false (c :: rest)) nofun

end Scan

/-- The tokens of a text that has none but whole ones are followed by those behind it. -/
theorem tokens_append (text behind : List Char) (stops : Stops behind)
    (whole : ∀ token ∈ tokens text, token.Whole) :
    tokens (text ++ behind) = tokens text ++ tokens behind := by
  fun_induction tokens text with
  | case1 => rfl
  | case2 c rest space ih =>
    rw [List.cons_append,tokens,if_pos space]
    exact ih whole
  | case3 c rest visible token scanned =>
    have extended := Scan.extends_scanToken stops c rest
    rw [scanned] at extended
    obtain ⟨_,left,_⟩ := extended (whole token (by simp))
    cases left
  | case4 c rest visible token more scanned _ ih =>
    obtain ⟨ofToken,ofMore⟩ := List.forall_mem_cons.mp whole
    have extended := Scan.extends_scanToken stops c rest
    rw [scanned] at extended
    obtain ⟨rest,left,longer⟩ := extended ofToken
    obtain rfl := Option.some.inj left
    rw [List.cons_append,tokens_of_scanToken c _ token _ (by simpa using visible) longer,ih ofMore,
      List.cons_append]

end ParseScope.Json
