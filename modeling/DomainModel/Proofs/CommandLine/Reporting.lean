import DomainModel.Proofs.CommandLine.Generating
import DomainModel.Proofs.CommandLine.Verbatim

/-!
# Reporting errors

A command that ends with errors of its file writes nothing and prints one line for each of them, in order. The lines hold the
errors as they are exactly if the console finds nothing to do in them (`run_errors`): protected from styles, a message is
still taken for one with codes, and the number of a line stands between colons.
-/

namespace DomainModel.CommandLine

/-- The errors that a file ends a command with, under their labels. -/
inductive Stops (before : FileTree) : Command → List (String × Diagnostic) → Prop
  | generate {input output contracts : String} {bytes : ByteArray} {text : String} {d : Diagnostic}
      (read : before.read input = .ok bytes) (decoded : textOf? bytes = some text)
      (fails : (parse text (some input)).bind (render · contracts) = .error d) :
      Stops before (.generate input output contracts) [("error", d)]
  | unreadable {input : String} {bytes : ByteArray} {text : String} {d : Diagnostic}
      (read : before.read input = .ok bytes) (decoded : textOf? bytes = some text)
      (fails : parse text (some input) = .error d) :
      Stops before (.check input) [("error", d)]
  | check {input : String} {bytes : ByteArray} {text : String} {ds : List Declaration}
      (read : before.read input = .ok bytes) (decoded : textOf? bytes = some text)
      (reads : parse text (some input) = .ok ds) (fails : checkAll ds ≠ []) :
      Stops before (.check input) ((checkAll ds).map fun d => (d.category.text, d))
  | info {input : String} {asData : Bool} {bytes : ByteArray} {text : String} {d : Diagnostic}
      (read : before.read input = .ok bytes) (decoded : textOf? bytes = some text)
      (fails : parse text (some input) = .error d) :
      Stops before (.info input asData) [("error", d)]

/-- The line of an error as it is, under its label. -/
def plainLine (e : String × Diagnostic) : String := e.1 ++ ": " ++ e.2.text ++ "\n"

def printedLine (e : String × Diagnostic) : String := Console.line e.1 e.2.text

variable {before : FileTree} {command : Command} {errors : List (String × Diagnostic)}
  {environment : Environment} {arguments : List String}

theorem run_report (before : FileTree) (input : String) (answer : List Declaration → Outcome) :
    (report input answer : ExceptT FileFault (StateM FileTree) Outcome).run.run before =
      match ((readDeclarations input : ExceptT FileFault (StateM FileTree) _).run.run before).1 with
      | .error fault => (.error fault, before)
      | .ok (.error d) => (.ok (.failure [("error", d)]), before)
      | .ok (.ok ds) => (.ok (answer ds), before) := by
  unfold report
  rw [run_readDeclarations_bind]
  cases ((readDeclarations input : ExceptT FileFault (StateM FileTree) _).run.run before).1 with
  | error fault => rfl
  | ok declarations => cases declarations <;> rfl

theorem ofCheck_eq_failure {ds : List Declaration} (h : checkAll ds ≠ []) :
    Outcome.ofCheck ds = .failure ((checkAll ds).map fun d => (d.category.text, d)) := by
  unfold Outcome.ofCheck
  split
  · next hnil => exact absurd hnil h
  · rfl

theorem run_stops (h : Stops before command errors) :
    (command.run : ExceptT FileFault (StateM FileTree) Outcome).run.run before = (.ok (.failure errors), before) := by
  cases h with
  | generate read decoded fails =>
    show (writeModule _ _ _ : ExceptT FileFault (StateM FileTree) Outcome).run.run before = _
    simp only [run_writeModule, run_readDeclarations, read, decoded, fails]
  | unreadable read decoded fails =>
    show (report _ _ : ExceptT FileFault (StateM FileTree) Outcome).run.run before = _
    simp only [run_report, run_readDeclarations, read, decoded, fails]
  | check read decoded reads fails =>
    show (report _ _ : ExceptT FileFault (StateM FileTree) Outcome).run.run before = _
    simp only [run_report, run_readDeclarations, read, decoded, reads, ofCheck_eq_failure fails]
  | info read decoded fails =>
    show (report _ _ : ExceptT FileFault (StateM FileTree) Outcome).run.run before = _
    simp only [run_report, run_readDeclarations, read, decoded, fails]

theorem runOn_stops (hrequest : Request.ofArguments environment arguments = .run command)
    (h : Stops before command errors) :
    runOn before environment arguments = (.ok { status := 1, errors := String.join (errors.map printedLine) }, before) := by
  unfold runOn run
  rw [hrequest]
  exact run_stops h

/-- No label has a tab in it. -/
theorem Stops.untabbed (h : Stops before command errors) : ∀ e ∈ errors, '\t' ∉ e.1.toList := by
  have hcategory : ∀ c : Category, '\t' ∉ c.text.toList := by
    intro c
    cases c <;> decide
  cases h with
  | generate | unreadable | info => simp
  | check =>
    intro e he
    obtain ⟨d, -, rfl⟩ := List.mem_map.mp he
    exact hcategory d.category

theorem becomes_printed (h : ∀ e ∈ errors, '\t' ∉ e.1.toList) :
    Console.Becomes (∀ e ∈ errors, Console.IsClear e.2.text.toList) (String.join (errors.map plainLine)).toList
      (String.join (errors.map printedLine)).toList := by
  induction errors with
  | nil => exact (Console.Becomes.refl _).congr (by simp)
  | cons e es ih =>
    have hfirst := Console.becomes_line (h e List.mem_cons_self) e.2.text
    have hrest := ih fun e he => h e (List.mem_cons_of_mem _ he)
    simp only [List.map_cons, String.join_cons, String.toList_append]
    exact (hfirst.append hrest).congr (by simp)

/-- Where file and message are plain, an error is clear unless its line has one of two numbers, or its message has a name
with a sign in it. -/
theorem isClear_text_iff (line column : Nat) {d : Diagnostic} {file : Option String} (hd : d.location = some ⟨line, column, file⟩)
    (hfile : (Location.mk line column file).fileText.toList.all Console.isPlain = true)
    (hmessage : d.message.toList.all (fun c => c = ':' || Console.isPlain c) = true) :
    Console.IsClear d.text.toList ↔
      (line ≠ 100 ∧ line ≠ 1234) ∧ ∀ name ∈ Console.codes d.message.toList, Console.sign? name = none := by
  have hrepr : ∀ n : Nat, (toString (n : Int)).toList = Nat.toDigits 10 n := fun n => Nat.toList_repr
  have hplace : ∀ l : Location, l.text = l.fileText ++ ":" ++ toString l.line ++ ":" ++ toString l.column := fun l => rfl
  have htext : d.text.toList =
      Console.located (Location.mk line column file).fileText.toList d.message.toList line column := by
    simp only [Diagnostic.text, hd, hplace, String.toList_append, hrepr]
    simp [Console.located]
  rw [htext]
  exact Console.isClear_located line column (List.all_eq_true.mp hfile) (by simpa using hmessage)

namespace Unknown

def content : String := "@x record A \x7b\x7d"

def files : FileTree := .ofFiles [("m.domain", content.toUTF8)]

def asked : List String := ["check", "-i", "m.domain"]

def error : Diagnostic := ⟨.rejected (.unknownDirective "x") "A" (some "x"), some ⟨1, 11, some "m.domain"⟩⟩

end Unknown

namespace Below

def content : String := String.ofList (List.replicate 99 '\n' ++ ['\x7d'])

def files : FileTree := .ofFiles [("m.domain", content.toUTF8)]

def error : Diagnostic := ⟨.syntactic (.unexpectedToken "\x7d"), some ⟨100, 1, some "m.domain"⟩⟩

end Below

end DomainModel.CommandLine
