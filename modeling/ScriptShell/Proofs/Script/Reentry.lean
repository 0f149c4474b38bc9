import ScriptShell.Proofs.FileTree.Canonical
import ScriptShell.Proofs.Session.Nesting
import Mathlib.Data.List.Induction
/-!
Whether a script can run inside itself. Scripts are told apart by their keys, and a key stands for
one file only if it is a canonical path. That is so for every path that has a canonical form. A path
that has none is known by its spelling, and where the spelling leads to a file all the same, as that
of a link to a file with a dot behind it does, the file may be running already.
-/
namespace ScriptShell

namespace FileTree

/-- Whether a script can be read under a key. -/
def loads (files : FileTree) (key : String) : Bool :=
  (scriptLines files key).isOk

/-- No two keys under which a script can be read lead to the same place. -/
def Apart (files : FileTree) (keys : List String) : Prop :=
  keys.Pairwise fun key other =>
    files.loads key = true → files.loads other = true → files.canonical key ≠ files.canonical other

/-- Keys that are canonical paths stand for one file each. -/
theorem canonical_ne_of_not_same {files : FileTree} {key other : String}
    (hKey : files.canonical key = .ok key) (hOther : files.canonical other = .ok other)
    (hSame : Path.same key other = false) : files.canonical key ≠ files.canonical other := by
  intro hEq
  rw [hKey, hOther] at hEq
  cases hEq
  rw [Path.same_refl] at hSame
  cases hSame

end FileTree

/-- Whether scripts are started only where no running script is the same file, the running scripts
and their files being what they are then. Only starts through a path without a canonical form, and
starts while a script runs under a key that is not its canonical path, are asked about. -/
def StartsApart (files : FileTree) (events : List Event) : Prop :=
  ∀ before target, before ++ [.sought target, .entered (files.key target)] <+: events →
    files.loads (files.key target) = true →
      ∀ other ∈ runningAfter [] before, files.loads other = true →
        (∀ text, files.canonical target ≠ .ok text) ∨ files.canonical other ≠ .ok other →
          files.canonical (files.key target) ≠ files.canonical other

section
variable {files : FileTree} {limit : Nat} {events : List Event}

/-- An event at the end of an orderly run keeps the running scripts apart, if starts do. -/
theorem apart_concat {earlier : List Event} {event : Event}
    (hOrderly : Orderly limit [] (earlier ++ [event]))
    (hSought : SoughtFirst files (earlier ++ [event]))
    (hStarts : StartsApart files (earlier ++ [event]))
    (hApart : files.Apart (runningAfter [] earlier)) :
    files.Apart (runningAfter [] (earlier ++ [event])) := by
  rw [runningAfter_append]
  cases event with
  | entered key =>
      obtain ⟨before, target, rfl, rfl⟩ := hSought earlier key [] rfl
      have hRunning : runningAfter [] (before ++ [.sought target]) = runningAfter [] before :=
        runningAfter_append
      have hFresh := (orderly_singleton.mp (orderly_append.mp hOrderly).2).1
      refine List.pairwise_cons.mpr ⟨fun other hOther hLoads hOtherLoads => ?_, hApart⟩
      by_cases hStray :
          (∀ text, files.canonical target ≠ .ok text) ∨ files.canonical other ≠ .ok other
      · exact hStarts before target (by simp) hLoads other (hRunning ▸ hOther) hOtherLoads hStray
      · simp only [not_or, Classical.not_forall, Classical.not_not] at hStray
        obtain ⟨⟨text, hText⟩, hCanonical⟩ := hStray
        have hKey : files.canonical (files.key target) = .ok (files.key target) := by
          rw [files.key_of_canonical hText]
          exact files.canonical_canonical hText
        exact files.canonical_ne_of_not_same hKey hCanonical (hFresh other hOther)
  | left key popped => exact List.Pairwise.tail hApart
  | _ => exact hApart

theorem Orderly.of_prefix {before : List Event} (h : Orderly limit [] events)
    (hBefore : before <+: events) : Orderly limit [] before := by
  obtain ⟨rest, rfl⟩ := hBefore
  exact (orderly_append.mp h).1

theorem SoughtFirst.of_prefix {before : List Event} (h : SoughtFirst files events)
    (hBefore : before <+: events) : SoughtFirst files before := by
  obtain ⟨rest, rfl⟩ := hBefore
  rintro earlier key after rfl
  exact h earlier key (after ++ rest) (by simp)

theorem StartsApart.of_prefix {before : List Event} (h : StartsApart files events)
    (hBefore : before <+: events) : StartsApart files before :=
  fun earlier target hStart => h earlier target (hStart.trans hBefore)

/-- The running scripts are apart at every moment exactly if starts keep them so. The induction is
on the events so far, latest first. -/
theorem apart_iff_startsApart (hOrderly : Orderly limit [] events)
    (hSought : SoughtFirst files events) :
    (∀ before, before <+: events → files.Apart (runningAfter [] before)) ↔
      StartsApart files events := by
  constructor
  · intro h before target hStart hLoads other hOther hOtherLoads _
    have hAfter := h _ hStart
    rw [runningAfter_append] at hAfter
    exact (List.pairwise_cons.mp hAfter).1 other hOther hLoads hOtherLoads
  · intro hStarts before hBefore
    induction before using List.reverseRecOn with
    | nil => exact .nil
    | append_singleton earlier event ih =>
        have hEarlier : earlier <+: events := (List.prefix_append _ _).trans hBefore
        exact apart_concat (hOrderly.of_prefix hBefore) (hSought.of_prefix hBefore)
          (hStarts.of_prefix hBefore) (ih hEarlier)

/-- Where every started script that can be read was asked for through a path with a canonical form,
every running script that can be read runs under its canonical path. -/
theorem canonical_of_running (hSought : SoughtFirst files events)
    (hCanonical : ∀ before target,
      before ++ [.sought target, .entered (files.key target)] <+: events →
        files.loads (files.key target) = true → ∃ text, files.canonical target = .ok text) :
    ∀ other ∈ runningAfter [] events, files.loads other = true →
      files.canonical other = .ok other := by
  induction events using List.reverseRecOn with
  | nil => simp [runningAfter]
  | append_singleton earlier event ih =>
      have hEarlier := ih (hSought.of_prefix (List.prefix_append _ _)) fun before target hStart =>
        hCanonical before target (hStart.trans (List.prefix_append _ _))
      rw [runningAfter_append]
      cases event with
      | entered key =>
          obtain ⟨before, target, rfl, rfl⟩ := hSought earlier key [] rfl
          intro other hOther hLoads
          rcases List.mem_cons.mp hOther with rfl | hOther
          · obtain ⟨text, hText⟩ := hCanonical before target (by simp) hLoads
            rw [files.key_of_canonical hText]
            exact files.canonical_canonical hText
          · exact hEarlier other hOther hLoads
      | left key popped => exact fun other hOther => hEarlier other (List.mem_of_mem_tail hOther)
      | _ => exact hEarlier

end

/-- Exactly when a call never has one file run inside itself: whenever it starts a script through a
path without a canonical form, or while a script runs under a key that is not its canonical path,
the file of the new one is not running already. So it never does if every path through which it
starts a script that can be read has a canonical form. -/
theorem Session.apart_serve_iff (files : FileTree) (call : Call) {s : Session}
    (hNone : s.running.keys = []) :
    ∃ events, (s.serve files call).journal.toList = s.journal.toList ++ events ∧
      ((∀ before, before <+: events → files.Apart (runningAfter [] before)) ↔
        StartsApart files events) ∧
      ((∀ before target, before ++ [.sought target, .entered (files.key target)] <+: events →
        files.loads (files.key target) = true → ∃ text, files.canonical target = .ok text) →
        ∀ before, before <+: events → files.Apart (runningAfter [] before)) := by
  obtain ⟨_, events, logs, hSought⟩ := (runs_serve files call s).logs
  have hOrderly : Orderly s.running.limit [] events := hNone ▸ logs.orderly
  have hIff := apart_iff_startsApart hOrderly hSought
  refine ⟨events, logs.journal, hIff, fun hCanonical => hIff.mpr ?_⟩
  intro before target hStart hLoads other hOther hOtherLoads hStray
  have hBefore : before <+: events := (List.prefix_append _ _).trans hStart
  have hRunning := canonical_of_running (hSought.of_prefix hBefore)
    (fun earlier target h => hCanonical earlier target (h.trans hBefore)) other hOther hOtherLoads
  rcases hStray with hStray | hStray
  · obtain ⟨text, hText⟩ := hCanonical before target hStart hLoads
    exact absurd hText (hStray text)
  · exact absurd hRunning hStray

/-- A script that includes itself under another spelling of its path. -/
def FileTree.looping : FileTree :=
  ⟨[(["a"], .file "echo x\ninclude ./a\n".toUTF8)]⟩

/-- Under another spelling the running script is refused, so it never runs inside itself. -/
theorem Session.apart_looping :
    (({ directory := "/" } : Session).serve .looping (.script "a")).journal.out = "x\n" ∧
      ∀ before, before <+: (({ directory := "/" } : Session).serve .looping
          (.script "a")).journal.toList →
        FileTree.looping.Apart (runningAfter [] before) := by
  refine ⟨by decide +kernel, ?_⟩
  obtain ⟨events, hEvents, hIff, _⟩ :=
    apart_serve_iff .looping (.script "a") (s := { directory := "/" }) rfl
  have hSame : (({ directory := "/" } : Session).serve .looping (.script "a")).journal.toList =
      [.sought "/a", .entered "/a", .called "echo" ["x"], .wrote "x\n", .called "include" ["./a"],
        .sought "/./a", .reported (.failedScript (.recursive "/a")), .left "/a" (some "/a")] := by
    decide +kernel
  rw [hSame] at hEvents ⊢
  cases hEvents
  apply hIff.mpr
  intro before target hStart hLoads other hOther
  match before with
  | [] => cases hOther
  | [_] => simp [List.cons_prefix_cons] at hStart
  | _ :: _ :: before =>
      simp only [List.cons_append, List.cons_prefix_cons] at hStart
      have hMem := hStart.2.2.subset
        (List.mem_append_right before (List.mem_cons_of_mem _ (List.mem_singleton_self _)))
      simp at hMem

/-- A script that includes itself by way of a link, with a dot behind the name of the link. -/
def FileTree.roundabout : FileTree :=
  ⟨[(["a"], .file "echo x\ninclude l/.\n".toUTF8), (["l"], .link "a")]⟩

/-- By way of a link with a dot behind it the running script runs inside itself: its first line is
carried out a second time. -/
theorem Session.not_apart_roundabout :
    (({ directory := "/" } : Session).serve .roundabout (.script "a")).journal.out = "x\nx\n" ∧
      ∃ before, before <+: (({ directory := "/" } : Session).serve .roundabout
          (.script "a")).journal.toList ∧
        ¬ FileTree.roundabout.Apart (runningAfter [] before) := by
  let s : Session := ({ directory := "/" } : Session).serve .roundabout (.script "a")
  have hRunning : runningAfter [] (s.journal.toList.take 7) = ["/l", "/a"] := by decide +kernel
  refine ⟨by decide +kernel, s.journal.toList.take 7, List.take_prefix .., ?_⟩
  intro hApart
  rw [hRunning] at hApart
  have hPair := (List.pairwise_cons.mp hApart).1 "/a" (by simp)
  have hLink : FileTree.roundabout.canonical "/l" = .ok "/a" := rfl
  have hFile : FileTree.roundabout.canonical "/a" = .ok "/a" := rfl
  exact hPair (by decide +kernel) (by decide +kernel) (hLink.trans hFile.symm)

end ScriptShell
