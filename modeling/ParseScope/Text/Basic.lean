/-!
Texts as lists of characters: slices by character offset, lines, and the escaping that keeps a
matched substring on one line.
-/
namespace ParseScope.Text

/-- The characters from offset `start` up to `stop`, both cut to the text. -/
def slice (text : List Char) (start stop : Nat) : List Char := (text.take stop).drop start

/-- The characters that stand for `c` on a line of its own. -/
def escapeChar (c : Char) : List Char :=
  if c = '\n' ∨ c = '\r' then ['\\', 'n']
  else if c = '\t' then ['\\', 't']
  else [c]

/-- Line breaks and tabs become two-character sequences; a carriage return and the line feed after
it are one line break. -/
def oneLine : List Char → List Char
  | [] => []
  | '\r' :: '\n' :: rest => '\\' :: 'n' :: oneLine rest
  | c :: rest => escapeChar c ++ oneLine rest

/-- The pieces between line feeds; one more than there are line feeds. -/
def lines : List Char → List (List Char)
  | [] => [[]]
  | c :: rest =>
    if c = '\n' then [] :: lines rest
    else match lines rest with
      | [] => [[c]]
      | line :: more => (c :: line) :: more

/-- The lines with their line feeds; only the last may lack one, and none is empty. -/
def terminatedLines : List Char → List (List Char)
  | [] => []
  | c :: rest =>
    if c = '\n' then [c] :: terminatedLines rest
    else match terminatedLines rest with
      | [] => [[c]]
      | line :: more => (c :: line) :: more

/-- Without the characters at the end that satisfy `drop`. -/
def trimEnd (drop : Char → Bool) (text : List Char) : List Char :=
  (text.reverse.dropWhile drop).reverse

/-- Without one carriage return at the end. -/
def dropFinalReturn (line : List Char) : List Char :=
  if line.getLast? = some '\r' then line.dropLast else line

/-- Line number `line`, counted from 1, without its terminator; empty past the last line. A zero
reads as 1. -/
def lineAt (text : List Char) (line : Nat) : List Char :=
  dropFinalReturn (((lines text)[line - 1]?).getD [])

/-- `n` copies of `piece` in a row. Copies of nothing are not counted out. -/
def repeated (n : Nat) (piece : List Char) : List Char :=
  if piece.isEmpty then [] else (List.replicate n piece).flatten

theorem slice_eq_take_drop (text : List Char) (start stop : Nat) :
    slice text start stop = (text.drop start).take (stop - start) := by
  rw [slice,List.drop_take]

theorem slice_append_slice (text : List Char) {start middle stop : Nat} (before : start ≤ middle)
    (after : middle ≤ stop) :
    slice text start middle ++ slice text middle stop = slice text start stop := by
  obtain ⟨first,rfl⟩ := Nat.exists_eq_add_of_le before
  obtain ⟨second,rfl⟩ := Nat.exists_eq_add_of_le after
  have width : start + first + second - start = first + second := by omega
  simp only [slice_eq_take_drop,Nat.add_sub_cancel_left,width,List.take_add,List.drop_drop]

theorem repeated_eq_flatten (n : Nat) (piece : List Char) :
    repeated n piece = (List.replicate n piece).flatten := by
  unfold repeated
  split
  · next h => simp [List.isEmpty_iff.1 h]
  · rfl

theorem length_dropWhile_le (p : Char → Bool) (text : List Char) :
    (text.dropWhile p).length ≤ text.length :=
  (List.dropWhile_suffix p).length_le

end ParseScope.Text
