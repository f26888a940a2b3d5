import DomainModel.Proofs.Text.Literal

/-!
# What documentation strings say

The literal of documentation lines says the lines, and nothing in a line ends it (`docstring_says`). A line is put into
the literal with its backslashes doubled and its triples of quotes escaped, so that to leave out the backslashes gives
the line again, whatever quotes and backslashes stand in it.
-/

namespace DomainModel

namespace Docstring

/-- The characters that a literal stands for. A backslash is read with a backslash or a quote behind it only. -/
def unescape? : List Char → Option (List Char)
  | [] => some []
  | '\\' :: c :: cs => if c = '\\' ∨ c = '"' then (unescape? cs).map (c :: ·) else none
  | c :: cs => if c = '\\' then none else (unescape? cs).map (c :: ·)

variable {c : Char} {line cs : List Char} {lines : List (List Char)}

theorem unescape?_cons (h : c ≠ '\\') (cs : List Char) : unescape? (c :: cs) = (unescape? cs).map (c :: ·) := by
  rw [unescape?, if_neg h]
  rintro d ds rfl
  exact absurd rfl h

/-- An escaped line stands for the line, whatever follows. -/
theorem unescape?_escape (line cs : List Char) : unescape? (escape line ++ cs) = (unescape? cs).map (line ++ ·) := by
  induction line using escape.induct with
  | case1 => simp [escape]
  | case2 rest ih => simp [escape, unescape?, ih, Function.comp_def]
  | case3 rest h ih => rw [escape, if_pos rfl] <;> simp [unescape?, ih, Function.comp_def]
  | case4 c rest h hc ih =>
    rw [escape, if_neg hc, List.cons_append, unescape?_cons hc, ih]
    · simp [Function.comp_def]
    · exact h

theorem unescape?_join (lines : List (List Char)) (cs : List Char) :
    unescape? (Lines.join (lines.map escape) ++ cs) = (unescape? cs).map (Lines.join lines ++ ·) := by
  induction lines with
  | nil => simp [Lines.join]
  | cons line lines ih =>
    by_cases hlines : lines = []
    · rw [hlines, List.map_singleton, Lines.join_singleton, Lines.join_singleton, unescape?_escape]
    · rw [List.map_cons, Lines.join_cons _ (by simp [hlines]), Lines.join_cons _ hlines, List.append_assoc, unescape?_escape,
        List.cons_append, unescape?_cons (by decide), ih]
      simp [Function.comp_def]

theorem getLast?_escape (line : List Char) : (escape line).getLast? = line.getLast? := by
  induction line using escape.induct with
  | case1 => rfl
  | case2 rest ih => simp [escape, List.getLast?_cons, ih]
  | case3 rest h ih => rw [escape, if_pos rfl] <;> simp [List.getLast?_cons, ih]
  | case4 c rest h hc ih =>
    rw [escape, if_neg hc, List.getLast?_cons, List.getLast?_cons, ih]
    exact h

/-- What stands between the lines of a literal and its closing quotes: a line feed, if there are several lines or the
only one ends in a quote. -/
def ending : List (List Char) → List Char
  | [line] => if line.getLast? = some '"' then ['\n'] else []
  | _ => ['\n']

theorem ending_spec (h : lines ≠ []) : (ending lines = [] ∨ ending lines = ['\n']) ∧
    (ending lines = ['\n'] ↔ 1 < lines.length ∨ ∃ line, lines = [line] ∧ line.getLast? = some '"') := by
  match lines with
  | [line] => by_cases hquote : line.getLast? = some '"' <;> simp [ending, hquote]
  | _ :: _ :: _ => simp [ending]

theorem encode_eq (h : lines ≠ []) :
    encode lines = quotes ++ (Lines.join (lines.map escape) ++ ending lines) ++ quotes := by
  match lines with
  | [line] =>
    simp only [encode, List.map_cons, List.map_nil, getLast?_escape, ending, Lines.join_singleton]
    split <;> simp
  | _ :: _ :: _ => simp [encode, ending]

end Docstring

namespace Quoting

variable {q : Quoting} {cs : List Char}

theorem read_append (q : Quoting) (a b : List Char) : q.read (a ++ b) = (q.read a).read b := List.foldl_append

theorem read_beyond (cs : List Char) : beyond.read cs = beyond := by
  induction cs with
  | nil => rfl
  | cons c cs ih => exact ih

/-- A literal ends where it is closed: it is closed nowhere before. -/
theorem not_closed_before (h : q.read cs = closed) {n : Nat} (hn : n < cs.length) : q.read (cs.take n) ≠ closed := by
  intro hbefore
  obtain ⟨c, rest, hrest⟩ := List.exists_cons_of_ne_nil (List.drop_eq_nil_iff.not.mpr (Nat.not_le.mpr hn))
  rw [← List.take_append_drop n cs, read_append, hbefore, hrest] at h
  have hbeyond : closed.read (c :: rest) = beyond := read_beyond rest
  rw [hbeyond] at h
  cases h

end Quoting

/-- Documentation lines make one literal between triple quotes. Behind the opening quotes, it is closed by its last three
characters and nowhere before, and what stands between stands for the lines. A line feed follows them if there are several
or the only one ends in a quote. -/
theorem docstring_says {docs : List String} (h : docs ≠ []) :
    ∃ body, (Docstring.text docs).toList = Docstring.quotes ++ body ++ Docstring.quotes ∧
      (Quoting.inside 0).read (body ++ Docstring.quotes) = .closed ∧
      (∀ n < (body ++ Docstring.quotes).length, (Quoting.inside 0).read ((body ++ Docstring.quotes).take n) ≠ .closed) ∧
      ∃ feed, Docstring.unescape? body = some (("\n".intercalate docs).toList ++ feed) ∧ (feed = [] ∨ feed = ['\n']) ∧
        (feed = ['\n'] ↔ 1 < docs.length ∨ ∃ line, docs = [line] ∧ line.toList.getLast? = some '"') := by
  have hlines : docs.map String.toList ≠ [] := by simpa using h
  have htext : (Docstring.text docs).toList = Docstring.encode (docs.map String.toList) := String.toList_ofList
  have hclosed : (Quoting.opening 0).read (Docstring.encode (docs.map String.toList)) = .closed :=
    Quoting.read_of_strictRead (Quoting.strictRead_encode hlines)
  rw [Docstring.encode_eq hlines, List.append_assoc, Quoting.read_append] at hclosed
  have hinside : (Quoting.opening 0).read Docstring.quotes = .inside 0 := rfl
  rw [hinside] at hclosed
  refine ⟨_, htext.trans (Docstring.encode_eq hlines), hclosed, fun n => Quoting.not_closed_before hclosed, ?_⟩
  have hjoin : Lines.join (docs.map String.toList) = ("\n".intercalate docs).toList := by
    rw [String.toList_intercalate, Lines.join]
    rfl
  obtain ⟨hfeed, hiff⟩ := Docstring.ending_spec hlines
  refine ⟨Docstring.ending (docs.map String.toList), ?_, hfeed, hiff.trans ?_⟩
  · have hending : Docstring.unescape? (Docstring.ending (docs.map String.toList)) =
        some (Docstring.ending (docs.map String.toList)) := by
      rcases hfeed with hfeed | hfeed <;> rw [hfeed] <;> rfl
    rw [Docstring.unescape?_join, hending, hjoin]
    rfl
  · simp [List.map_eq_singleton_iff]

/-- A line of a backslash and four quotes ends in a quote, so that a line feed follows it. -/
theorem docstring_says_quotes : ["\\\"\"\"\""] ≠ [] ∧
    ∃ body, (Docstring.text ["\\\"\"\"\""]).toList = Docstring.quotes ++ body ++ Docstring.quotes ∧
      Docstring.unescape? body = some "\\\"\"\"\"\n".toList := by
  refine ⟨by decide, ?_⟩
  obtain ⟨body, hbody, -, -, feed, hsays, -, hfeed⟩ := docstring_says (List.cons_ne_nil "\\\"\"\"\"" [])
  rw [hfeed.mpr (.inr ⟨_, rfl, by decide⟩)] at hsays
  exact ⟨body, hbody, hsays⟩

end DomainModel
