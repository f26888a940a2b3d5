import DomainModel.Proofs.Target.Placed

/-!
# Written types and annotations

No two types are written alike, however they are nested, because what follows a name tells whether it has arguments and
where these end (`text_append_inj`). The annotation of a type is the written form of the type with its names replaced, so
that two types have one annotation exactly if they have one shape and their names become the same (`text_faithful`).
-/

namespace DomainModel.TypeRef

/-! ## Shapes -/

mutual

/-- Two types have one shape, and the names at each place of it are related. -/
def Alike (R : String → String → Prop) : TypeRef → TypeRef → Prop
  | ⟨m, ss⟩, ⟨n, ts⟩ => R m n ∧ AllAlike R ss ts

def AllAlike (R : String → String → Prop) : List TypeRef → List TypeRef → Prop
  | [], [] => True
  | s :: ss, t :: ts => s.Alike R t ∧ AllAlike R ss ts
  | _, _ => False

end

section
variable {f : String → String}

mutual

theorem alike_mapNames : (t : TypeRef) → t.Alike (fun n m => m = f n) (t.mapNames f)
  | ⟨_, ts⟩ => ⟨rfl, allAlike_mapNames ts⟩

theorem allAlike_mapNames : (ts : List TypeRef) → AllAlike (fun n m => m = f n) ts (mapNamesList f ts)
  | [] => trivial
  | t :: ts => ⟨alike_mapNames t, allAlike_mapNames ts⟩

end

mutual

theorem mapNames_eq_iff : (s t : TypeRef) → (s.mapNames f = t.mapNames f ↔ s.Alike (fun m n => f m = f n) t)
  | ⟨m, ss⟩, ⟨n, ts⟩ => by
    simp only [mapNames, mk.injEq, Alike]
    rw [mapNamesList_eq_iff ss ts]

theorem mapNamesList_eq_iff : (ss ts : List TypeRef) →
    (mapNamesList f ss = mapNamesList f ts ↔ AllAlike (fun m n => f m = f n) ss ts)
  | [], [] => by simp [mapNamesList, AllAlike]
  | [], t :: ts => by simp [mapNamesList, AllAlike]
  | s :: ss, [] => by simp [mapNamesList, AllAlike]
  | s :: ss, t :: ts => by
    simp only [mapNamesList, List.cons.injEq, AllAlike]
    rw [mapNames_eq_iff s t, mapNamesList_eq_iff ss ts]

end

mutual

theorem mapNames_mapNames (hf : ∀ n, f (f n) = f n) : (t : TypeRef) → (t.mapNames f).mapNames f = t.mapNames f
  | ⟨n, ts⟩ => by rw [mapNames, mapNames, hf, mapNamesList_mapNamesList hf ts]

theorem mapNamesList_mapNamesList (hf : ∀ n, f (f n) = f n) : (ts : List TypeRef) →
    mapNamesList f (mapNamesList f ts) = mapNamesList f ts
  | [] => rfl
  | t :: ts => by rw [mapNamesList, mapNamesList, mapNames_mapNames hf t, mapNamesList_mapNamesList hf ts]

end

end

theorem targetName_targetName (n : String) : targetName (targetName n) = targetName n := by
  have hbuiltins : ∀ x ∈ builtins, targetName x.2 = x.2 := by decide
  cases hl : builtins.lookup n with
  | none =>
    have hn : targetName n = n := by rw [targetName, hl, Option.getD_none]
    rw [hn, hn]
  | some m =>
    have hm : targetName n = m := by rw [targetName, hl, Option.getD_some]
    obtain ⟨before, behind, he, -⟩ := List.lookup_eq_some_iff.mp hl
    rw [hm]
    exact hbuiltins (n, m) (by simp [he])

/-! ## Written forms -/

theorem textTail_eq (t : TypeRef) (ts : List TypeRef) :
    t.text ++ textTail ts = ", ".intercalate ((t :: ts).map text) := by
  induction ts generalizing t with
  | nil => simp [textTail]
  | cons u ts ih =>
    rw [textTail, String.append_assoc, ih u]
    simp only [List.map_cons, String.intercalate_cons_cons, String.append_assoc]

theorem text_eq (t : TypeRef) :
    t.text = if t.args = [] then t.name else t.name ++ "[" ++ ", ".intercalate (t.args.map text) ++ "]" := by
  obtain ⟨name, ts⟩ := t
  cases ts with
  | nil => rfl
  | cons t ts =>
    rw [if_neg (List.cons_ne_nil t ts), ← textTail_eq, text]
    simp only [String.append_assoc]

theorem mapNamesList_eq (f : String → String) (ts : List TypeRef) : mapNamesList f ts = ts.map (mapNames f) := by
  induction ts with
  | nil => rfl
  | cons t ts ih => rw [mapNamesList, List.map_cons, ih]

theorem annotation_eq (t : TypeRef) :
    t.annotation = if t.args = [] then targetName t.name
      else targetName t.name ++ "[" ++ ", ".intercalate (t.args.map annotation) ++ "]" := by
  obtain ⟨name, ts⟩ := t
  rw [ annotation, text_eq, mapNames, mapNamesList_eq, List.map_map]
  simp only [List.map_eq_nil_iff]
  rfl

/-! ## Reading a written form -/

def Follows (rest : List Char) : Prop := rest = [] ∨ ∃ c cs, rest = c :: cs ∧ (c = ',' ∨ c = ']')

def FollowsName (rest : List Char) : Prop := Follows rest ∨ ∃ cs, rest = '[' :: cs

theorem FollowsName.ends {rest : List Char} (h : FollowsName rest) :
    ∀ c ∈ rest.head?, (c = '.' || Word.isPart c) = false := by
  intro d hd
  rcases h with (h | ⟨c, cs, h, hc⟩) | ⟨cs, h⟩
  · simp [h] at hd
  · rcases hc with hc | hc
    · obtain rfl : ',' = d := by simpa [h, hc] using hd
      rfl
    · obtain rfl : ']' = d := by simpa [h, hc] using hd
      rfl
  · obtain rfl : '[' = d := by simpa [h] using hd
    rfl

theorem name_append_inj {m n : String} {r r' : List Char} (hm : IsQualified m) (hn : IsQualified n) (hr : FollowsName r)
    (hr' : FollowsName r') (h : m.toList ++ r = n.toList ++ r') : m = n ∧ r = r' := by
  have htake : ∀ {s : String} {rest : List Char}, IsQualified s → FollowsName rest →
      (s.toList ++ rest).takeWhile (fun c => c = '.' || Word.isPart c) = s.toList := by
    intro s rest hs hrest
    apply Terminal.takeWhile_run
    · intro c hc
      simpa using hs.isPart_of_mem c hc
    · exact hrest.ends
  have hname : m.toList = n.toList := by rw [← htake hm hr, h, htake hn hr']
  rw [hname] at h
  exact ⟨String.toList_inj.mp hname, List.append_cancel_left h⟩

theorem toList_text_cons (name : String) (t : TypeRef) (ts : List TypeRef) (r : List Char) :
    (text ⟨name, t :: ts⟩).toList ++ r = name.toList ++ '[' :: (t.text.toList ++ ((textTail ts).toList ++ ']' :: r)) := by
  rw [text]
  simp

theorem follows_textTail (ts : List TypeRef) (r : List Char) : Follows ((textTail ts).toList ++ ']' :: r) := by
  cases ts with
  | nil => exact .inr ⟨']', r, by simp [textTail], .inr rfl⟩
  | cons t ts => exact .inr ⟨',', _, by simp [textTail]; rfl, .inl rfl⟩

mutual

/-- A written type can be told from what follows it. -/
theorem text_append_inj {r r' : List Char} (hr : Follows r) (hr' : Follows r') : (s t : TypeRef) → s.IsWorded →
    t.IsWorded → s.text.toList ++ r = t.text.toList ++ r' → s = t ∧ r = r'
  | ⟨m, []⟩, ⟨n, []⟩, hs, ht, h => by
    obtain ⟨hname, hrest⟩ := name_append_inj hs.1 ht.1 (.inl hr) (.inl hr') h
    exact ⟨by rw [hname], hrest⟩
  | ⟨m, []⟩, ⟨n, t :: ts⟩, hs, ht, h => by
    rw [toList_text_cons] at h
    obtain ⟨-, hrest⟩ := name_append_inj hs.1 ht.1 (.inl hr) (.inr ⟨_, rfl⟩) h
    rcases hr with hr | ⟨c, cs, hr, hc | hc⟩ <;> simp_all
  | ⟨m, s :: ss⟩, ⟨n, []⟩, hs, ht, h => by
    rw [toList_text_cons] at h
    obtain ⟨-, hrest⟩ := name_append_inj hs.1 ht.1 (.inr ⟨_, rfl⟩) (.inl hr') h
    rcases hr' with hr' | ⟨c, cs, hr', hc | hc⟩ <;> simp_all
  | ⟨m, s :: ss⟩, ⟨n, t :: ts⟩, hs, ht, h => by
    rw [toList_text_cons, toList_text_cons] at h
    obtain ⟨hname, hrest⟩ := name_append_inj hs.1 ht.1 (.inr ⟨_, rfl⟩) (.inr ⟨_, rfl⟩) h
    obtain ⟨hfirst, htail⟩ := text_append_inj (follows_textTail ss r) (follows_textTail ts r') s t hs.2.1 ht.2.1
      (List.cons.inj hrest).2
    obtain ⟨hothers, hend⟩ := textTail_append_inj ss ts hs.2.2 ht.2.2 htail
    exact ⟨by rw [hname, hfirst, hothers], hend⟩

theorem textTail_append_inj {r r' : List Char} : (ss ts : List TypeRef) → AreWorded ss → AreWorded ts →
    (textTail ss).toList ++ ']' :: r = (textTail ts).toList ++ ']' :: r' → ss = ts ∧ r = r'
  | [], [], _, _, h => by simpa [textTail] using h
  | [], t :: ts, _, _, h => by simp [textTail] at h
  | s :: ss, [], _, _, h => by simp [textTail] at h
  | s :: ss, t :: ts, hs, ht, h => by
    simp only [textTail, String.toList_append, List.append_assoc] at h
    obtain ⟨hfirst, htail⟩ := text_append_inj (follows_textTail ss r) (follows_textTail ts r') s t hs.1 ht.1
      (List.append_cancel_left h)
    obtain ⟨hothers, hend⟩ := textTail_append_inj ss ts hs.2 ht.2 htail
    exact ⟨by rw [hfirst, hothers], hend⟩

end

theorem text_inj {s t : TypeRef} (hs : s.IsWorded) (ht : t.IsWorded) : s.text = t.text ↔ s = t := by
  constructor
  · intro h
    exact (text_append_inj (.inl rfl) (.inl rfl) s t hs ht (by rw [h])).1
  · intro h
    rw [h]

mutual

theorem isWorded_mapNames : (t : TypeRef) → t.IsWorded → (t.mapNames targetName).IsWorded
  | ⟨_, ts⟩, h => ⟨Target.isQualified_targetName h.1, areWorded_mapNamesList ts h.2⟩

theorem areWorded_mapNamesList : (ts : List TypeRef) → AreWorded ts → AreWorded (mapNamesList targetName ts)
  | [], _ => trivial
  | t :: ts, h => ⟨isWorded_mapNames t h.1, areWorded_mapNamesList ts h.2⟩

end

theorem annotation_inj {s t : TypeRef} (hs : s.IsWorded) (ht : t.IsWorded) :
    s.annotation = t.annotation ↔ s.Alike (fun m n => targetName m = targetName n) t := by
  rw [ annotation, annotation, text_inj (isWorded_mapNames s hs) (isWorded_mapNames t ht), mapNames_eq_iff]

/-- Types of dotted names are told apart by their written forms. The annotation of a type is the written form of the type
that has its shape and the names that its names become, and it tells apart what these do; to replace the names once more
changes nothing. -/
theorem text_faithful {s t : TypeRef} (hs : s.IsWorded) (ht : t.IsWorded) :
    (s.text = t.text ↔ s = t) ∧
    t.annotation = (if t.args = [] then targetName t.name
      else targetName t.name ++ "[" ++ ", ".intercalate (t.args.map annotation) ++ "]") ∧
    t.annotation = (t.mapNames targetName).text ∧ t.Alike (fun n m => m = targetName n) (t.mapNames targetName) ∧
    (s.annotation = t.annotation ↔ s.Alike (fun m n => targetName m = targetName n) t) ∧
    (t.mapNames targetName).mapNames targetName = t.mapNames targetName ∧
    TypeRef.annotation (t.mapNames targetName) = t.annotation := by
  have htwice := mapNames_mapNames targetName_targetName t
  refine ⟨text_inj hs ht, annotation_eq t, rfl, alike_mapNames t, annotation_inj hs ht, htwice, ?_⟩
  rw [ annotation, htwice, annotation]

/-- Two names of one type, and a comma inside the brackets. -/
theorem text_faithful_list :
    (⟨"list", [⟨"uuid", []⟩, ⟨"a.b", []⟩]⟩ : TypeRef).IsWorded ∧ (⟨"list", [⟨"Uuid", []⟩, ⟨"a.b", []⟩]⟩ : TypeRef).IsWorded ∧
      text ⟨"list", [⟨"uuid", []⟩, ⟨"a.b", []⟩]⟩ ≠ text ⟨"list", [⟨"Uuid", []⟩, ⟨"a.b", []⟩]⟩ ∧
      annotation ⟨"list", [⟨"uuid", []⟩, ⟨"a.b", []⟩]⟩ = annotation ⟨"list", [⟨"Uuid", []⟩, ⟨"a.b", []⟩]⟩ := by
  have hword : ∀ w ∈ ["list", "uuid", "Uuid", "a", "b"], IsWord w := by decide
  have hdotted : IsQualified "a.b" := (hword "a" (by simp)).isQualified.dot (hword "b" (by simp))
  have hlist := (hword "list" (by simp)).isQualified
  have hs : (⟨"list", [⟨"uuid", []⟩, ⟨"a.b", []⟩]⟩ : TypeRef).IsWorded :=
    ⟨hlist, ⟨(hword "uuid" (by simp)).isQualified, trivial⟩, ⟨hdotted, trivial⟩, trivial⟩
  have ht : (⟨"list", [⟨"Uuid", []⟩, ⟨"a.b", []⟩]⟩ : TypeRef).IsWorded :=
    ⟨hlist, ⟨(hword "Uuid" (by simp)).isQualified, trivial⟩, ⟨hdotted, trivial⟩, trivial⟩
  obtain ⟨htext, -, -, -, hannotation, -⟩ := text_faithful hs ht
  refine ⟨hs, ht, ?_, ?_⟩
  · intro h
    exact absurd (htext.mp h) (by decide)
  · apply hannotation.mpr
    exact ⟨rfl, ⟨rfl, trivial⟩, ⟨rfl, trivial⟩, trivial⟩

end DomainModel.TypeRef
