import ParseScope.Proofs.Json.Append
import ParseScope.Proofs.Json.Closed

/-!
Texts of values put together. A text that is read as a value on its own is read as this value
wherever one is due, so texts between brackets make the list or the object of what they are read as.
-/
namespace ParseScope.Json

/-! ### Reading inside containers -/

namespace State

/-- The state if everything is read inside `outer`. -/
def within (outer : Context) : State → State
  | .inside context => .inside (context ++ outer)
  | .whole outline _ => resume outline outer

def Broken (state : State) : Prop := ∃ outline, state = .whole outline false ∧ ¬ outline.Closed

/-- The text breaks at the token, or it is whole and does the same inside `outer`. -/
def Lifts (outer : Context) (token : Token) (next inner : State) : Prop :=
  next.Broken ∨ token.Whole ∧ inner = next.within outer

theorem lifts_breakAt (outer context : Context) (token : Token) (outline : Outline) (inner : State)
    (opened : ¬ outline.Closed) : Lifts outer token (breakAt context outline) inner :=
  .inl ⟨_,rfl,not_closed_wrap context outline opened⟩

theorem lifts_inside (outer context : Context) (token : Token) (whole : token.Whole) :
    Lifts outer token (.inside context) (.inside (context ++ outer)) := .inr ⟨whole,rfl⟩

theorem lifts_resume (outer context : Context) (token : Token) (outline : Outline)
    (whole : token.Whole) :
    Lifts outer token (resume outline context) (resume outline (context ++ outer)) := by
  refine .inr ⟨whole,?_⟩
  cases context with
  | nil => rfl
  | cons frame context =>
    cases frame with
    | list | object | member => rfl

theorem lifts_scalar (outer context : Context) (token : Token) (piece : Piece Scalar)
    (whole : piece.broken = none → token.Whole) :
    Lifts outer token (scalar context piece) (scalar (context ++ outer) piece) := by
  rw [scalar,scalar]
  split
  · next broken => exact lifts_breakAt _ _ _ _ _ (Option.isSome_iff_ne_none.mp broken)
  · next sound => exact lifts_resume outer context token _ (whole (by simpa using sound))

theorem lifts_value (outer context : Context) (token : Token) :
    Lifts outer token (value context token) (value (context ++ outer) token) := by
  cases token with
  | openList => exact lifts_inside outer (.list [] .first :: context) .openList trivial
  | openObject => exact lifts_inside outer (.object [] .first :: context) .openObject trivial
  | string piece => exact lifts_scalar outer context _ _ id
  | scalar piece => exact lifts_scalar outer context _ piece id
  | closeList | closeObject | comma | colon | stray =>
    exact lifts_breakAt _ _ _ _ _ (not_closed_broken .noValue)

theorem lifts_key (outer context : Context) (members : List (Except Fault String × Outline))
    (token : Token) :
    Lifts outer token (key members context token) (key members (context ++ outer) token) := by
  cases token with
  | string piece =>
    rw [key,key]
    cases broken : piece.broken with
    | some fault => exact lifts_breakAt _ _ _ _ _ (not_closed_broken fault)
    | none => exact lifts_inside outer (.member members piece.value false :: context) _ broken
  | openList | closeList | openObject | closeObject | comma | colon | scalar | stray =>
    exact lifts_breakAt _ _ _ _ _ (not_closed_object members .noKey (by simp))

theorem lifts_step_list (outer context : Context) (items : List Outline) (phase : Phase)
    (token : Token) :
    Lifts outer token (step (.inside (.list items phase :: context)) token)
      (step (.inside (.list items phase :: context ++ outer)) token) := by
  cases phase with
  | first =>
    by_cases closes : token = .closeList
    · subst closes
      exact lifts_resume outer context .closeList (.list (.done .closed)) trivial
    · rw [List.cons_append,step_due _ (.firstItem items context) token closes,
        step_due _ (.firstItem items (context ++ outer)) token closes]
      exact lifts_value outer (.list items .first :: context) token
  | next =>
    by_cases closes : token = .closeList
    · subst closes
      exact lifts_breakAt _ context _ _ _ (not_closed_list items .afterComma (by simp))
    · rw [List.cons_append,step_due _ (.nextItem items context) token closes,
        step_due _ (.nextItem items (context ++ outer)) token closes]
      exact lifts_value outer (.list items .next :: context) token
  | separator =>
    cases token with
    | comma => exact lifts_inside outer (.list items .next :: context) .comma trivial
    | closeList => exact lifts_resume outer context .closeList _ trivial
    | openList | openObject | closeObject | colon | string | scalar | stray =>
      exact lifts_breakAt _ context _ _ _ (not_closed_list items .noSeparator (by simp))

theorem lifts_step_object (outer context : Context)
    (members : List (Except Fault String × Outline)) (phase : Phase) (token : Token) :
    Lifts outer token (step (.inside (.object members phase :: context)) token)
      (step (.inside (.object members phase :: context ++ outer)) token) := by
  cases phase with
  | first =>
    by_cases closes : token = .closeObject
    · subst closes
      exact lifts_resume outer context .closeObject (.object (.done .closed)) trivial
    · rw [List.cons_append,step_key members .first context token (by simp) closes,
        step_key members .first (context ++ outer) token (by simp) closes]
      exact lifts_key outer context members token
  | next =>
    by_cases closes : token = .closeObject
    · subst closes
      exact lifts_breakAt _ context _ _ _ (not_closed_object members .afterComma (by simp))
    · rw [List.cons_append,step_key members .next context token (by simp) closes,
        step_key members .next (context ++ outer) token (by simp) closes]
      exact lifts_key outer context members token
  | separator =>
    cases token with
    | comma => exact lifts_inside outer (.object members .next :: context) .comma trivial
    | closeObject => exact lifts_resume outer context .closeObject _ trivial
    | openList | closeList | openObject | colon | string | scalar | stray =>
      exact lifts_breakAt _ context _ _ _ (not_closed_object members .noSeparator (by simp))

/-- Where a value is due, it is read as it is on its own. -/
theorem lifts_step (outer context : Context) (due : Due outer) (token : Token) :
    Lifts outer token (step (.inside context) token) (step (.inside (context ++ outer)) token) := by
  cases context with
  | nil =>
    by_cases closes : token = .closeList
    · subst closes
      exact lifts_breakAt _ [] _ _ _ (not_closed_broken .noValue)
    · rw [List.nil_append,step_due outer due token closes]
      exact lifts_value outer [] token
  | cons frame context =>
    cases frame with
    | list items phase => exact lifts_step_list outer context items phase token
    | object members phase => exact lifts_step_object outer context members phase token
    | member members key colon =>
      cases colon with
      | true => exact lifts_value outer (.member members key true :: context) token
      | false =>
        cases token with
        | colon => exact lifts_inside outer (.member members key true :: context) .colon trivial
        | openList | closeList | openObject | closeObject | comma | string | scalar | stray =>
          exact lifts_breakAt _ _ _ _ _ (not_closed_broken .noColon)

/-- Nothing may follow a whole value. -/
theorem foldl_step_whole (tokens : List Token) (outline value : Outline) (more : Bool)
    (read : tokens.foldl step (.whole outline more) = .whole value false) :
    outline = value ∧ tokens = [] := by
  induction tokens generalizing more with
  | nil =>
    injection read with same
    exact ⟨same,rfl⟩
  | cons token tokens ih =>
    obtain ⟨_,rfl⟩ := ih true read
    injection read with _ false
    cases false

theorem foldl_step_within (outer context : Context) (due : Due outer) (tokens : List Token)
    (value : Outline) (closed : value.Closed)
    (read : tokens.foldl step (.inside context) = .whole value false) :
    (∀ token ∈ tokens, token.Whole) ∧
      tokens.foldl step (.inside (context ++ outer)) = resume value outer := by
  induction tokens generalizing context with
  | nil => cases read
  | cons token tokens ih =>
    rw [List.foldl_cons] at read ⊢
    rcases lifts_step outer context due token with ⟨outline,broken,opened⟩ | ⟨whole,inner⟩
    · rw [broken] at read
      obtain ⟨rfl,_⟩ := foldl_step_whole tokens outline value false read
      exact absurd closed opened
    · rw [inner]
      cases next : step (.inside context) token with
      | inside context =>
        rw [next] at read
        obtain ⟨others,rest⟩ := ih context read
        exact ⟨List.forall_mem_cons.mpr ⟨whole,others⟩,rest⟩
      | whole outline more =>
        rw [next] at read
        obtain ⟨rfl,rfl⟩ := foldl_step_whole tokens outline value more read
        exact ⟨by simpa using whole,rfl⟩

theorem eq_whole_of_finish (state : State) (value : Outline) (closed : value.Closed)
    (finished : state.finish = (value,false)) : state = .whole value false := by
  cases state with
  | whole outline more =>
    obtain ⟨rfl,rfl⟩ := Prod.mk.inj finished
    rfl
  | inside context => exact absurd (finished ▸ closed) (not_closed_finish context)

end State

/-! ### Texts of parts -/

/-- A text that is read as a value, with blanks around it or without. -/
structure ValueText where
  text : List Char
  value : Outline
  reads : outline text = (value,false)
  closed : value.Closed

theorem ValueText.run (part : ValueText) (context : Context) (due : Due context) (rest : List Char)
    (stops : Stops rest) :
    run (.inside context) (part.text ++ rest) = run (State.resume part.value context) rest := by
  have whole := State.eq_whole_of_finish _ part.value part.closed part.reads
  obtain ⟨tokensWhole,lifted⟩ :=
    State.foldl_step_within context [] due _ part.value part.closed whole
  rw [Json.run,tokens_append part.text rest stops tokensWhole,List.foldl_append]
  exact congrArg (fun state => (tokens rest).foldl State.step state) lifted

/-- A name and a value. The name is a string literal, with blanks around it or without. -/
structure MemberText where
  key : List Char
  name : String
  named : tokens key = [.string ⟨.ok name,none⟩]
  value : ValueText

namespace MemberText

def text (part : MemberText) : List Char := part.key ++ ':' :: part.value.text

/-- What the text is read as. -/
def member (part : MemberText) : String × Outline := (part.name,part.value.value)

theorem run (part : MemberText) (context : Context)
    (members : List (Except Fault String × Outline)) (phase : Phase) (awaits : phase ≠ .separator)
    (rest : List Char) (stops : Stops rest) :
    run (.inside (.object members phase :: context)) (part.text ++ rest) = Json.run
      (.inside (.object ((.ok part.name,part.value.value) :: members) .separator :: context))
      rest := by
  have key : tokens (part.key ++ ':' :: (part.value.text ++ rest)) =
      .string ⟨.ok part.name,none⟩ :: .colon :: tokens (part.value.text ++ rest) := by
    have whole : ∀ token ∈ tokens part.key, token.Whole := by simp [part.named,Token.Whole]
    rw [tokens_append part.key _ (stops_colon _) whole,part.named,tokens_colon]
    rfl
  have value := part.value.run (.member members (.ok part.name) true :: context) (.member ..) rest
    stops
  rw [Json.run] at value
  rw [text,List.append_assoc,List.cons_append,Json.run,key]
  cases phase with
  | separator => exact absurd rfl awaits
  | first => exact value
  | next => exact value

end MemberText

/-! ### Written parts -/

theorem Value.close_outlineItems (items : List Value) : (outlineItems items).close = .closed := by
  induction items with
  | nil => rfl
  | cons item items ih => exact ih

theorem Value.close_outlineMembers (members : List (String × Value)) :
    (outlineMembers members).close = .closed := by
  induction members with
  | nil => rfl
  | cons member members ih => exact ih

theorem Value.closed_outline (value : Value) : value.outline.Closed := by
  cases value with
  | null | bool | integer | string => rfl
  | list items => exact close_outlineItems items
  | object members => exact close_outlineMembers members

def ValueText.ofValue (value : Value) (words : value.HasWords) : ValueText where
  text := value.compact
  value := value.outline
  reads := outline_compact value words
  closed := value.closed_outline

def MemberText.ofValue (name : String) (value : Value) (words : value.HasWords) : MemberText where
  key := Value.literal name
  name := name
  named := by simpa using tokens_literal name []
  value := .ofValue value words

/-! ### Brackets -/

/-- Texts with a comma between any two of them. -/
def commaSeparated : List (List Char) → List Char
  | [] => []
  | first :: others => first ++ others.flatMap (',' :: ·)

def objectText (parts : List MemberText) : List Char :=
  '\x7b' :: commaSeparated (parts.map MemberText.text) ++ ['\x7d']

def listText (parts : List ValueText) : List Char :=
  '[' :: commaSeparated (parts.map ValueText.text) ++ [']']

theorem stops_followers (texts : List (List Char)) (rest : List Char) (stops : Stops rest) :
    Stops (texts.flatMap (',' :: ·) ++ rest) := by
  cases texts with
  | nil => exact stops
  | cons text texts => exact (Ends.comma _).stops

theorem run_nil (state : State) : run state [] = state := by
  rw [run,tokens_nil]
  rfl

theorem run_followers_list (parts : List ValueText) (context : Context) (before : List Outline) :
    run (.inside (.list before .separator :: context))
        ((parts.map ValueText.text).flatMap (',' :: ·) ++ [']']) =
      State.resume
        (.list (.after before ((parts.map ValueText.value).foldr .item (.done .closed))))
        context := by
  induction parts generalizing before with
  | nil =>
    rw [List.map_nil,List.flatMap_nil,List.nil_append,run_closeList,run_nil]
    rfl
  | cons part parts ih =>
    rw [List.map_cons,List.flatMap_cons,List.cons_append,List.cons_append,List.append_assoc,
      run_comma_item,part.run _ (.nextItem before context) _
        (stops_followers _ _ (Ends.closeList []).stops)]
    exact ih (part.value :: before)

theorem run_followers_object (parts : List MemberText) (context : Context)
    (before : List (Except Fault String × Outline)) :
    run (.inside (.object before .separator :: context))
        ((parts.map MemberText.text).flatMap (',' :: ·) ++ ['\x7d']) =
      State.resume (.object (.after before (.ofList (parts.map MemberText.member)))) context := by
  induction parts generalizing before with
  | nil =>
    rw [List.map_nil,List.flatMap_nil,List.nil_append,run_closeObject,run_nil]
    rfl
  | cons part parts ih =>
    rw [List.map_cons,List.flatMap_cons,List.cons_append,List.cons_append,List.append_assoc,
      run_comma_member,part.run context before .next (by simp) _
        (stops_followers _ _ (Ends.closeObject []).stops)]
    exact ih ((.ok part.name,part.value.value) :: before)

/-- Texts of values in brackets are the list of these values. -/
theorem holds_listText (parts : List ValueText) : Holds (.ofList (listText parts))
    (.list ((parts.map ValueText.value).foldr .item (.done .closed))) := by
  have read : run (.inside []) (listText parts) =
      .whole (.list ((parts.map ValueText.value).foldr .item (.done .closed))) false := by
    rw [listText,List.cons_append,run_openList [] _ .whole]
    cases parts with
    | nil => exact (run_closeList_first [] []).trans (run_nil _)
    | cons part parts =>
      rw [List.map_cons,commaSeparated,List.append_assoc,
        part.run _ (.firstItem [] []) _ (stops_followers _ _ (Ends.closeList []).stops)]
      exact run_followers_list parts [] [part.value]
  rw [Holds,String.toList_ofList,outline,← run,read]
  rfl

/-- Texts of members in braces are the object with these members. -/
theorem holds_objectText (parts : List MemberText) : Holds (.ofList (objectText parts))
    (.object (.ofList (parts.map MemberText.member))) := by
  have read : run (.inside []) (objectText parts) =
      .whole (.object (.ofList (parts.map MemberText.member))) false := by
    rw [objectText,List.cons_append,run_openObject [] _ .whole]
    cases parts with
    | nil => exact (run_closeObject_first [] []).trans (run_nil _)
    | cons part parts =>
      rw [List.map_cons,commaSeparated,List.append_assoc,
        part.run [] [] .first (by simp) _ (stops_followers _ _ (Ends.closeObject []).stops)]
      exact run_followers_object parts [] [(.ok part.name,part.value.value)]
  rw [Holds,String.toList_ofList,outline,← run,read]
  rfl

end ParseScope.Json
