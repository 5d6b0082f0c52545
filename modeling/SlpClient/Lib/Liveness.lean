import Mathlib.Data.List.Pairwise
import Mathlib.Logic.Function.Basic
import SlpClient.Lib.Machine

/-!
# Members that must be heard

A roster knows its members and when each of them was heard last.  A member
joins, is heard again, or leaves; now and then a sweep removes everybody who
has been silent for too long.  As long as the clock does not run backwards,
a member was heard less than the timeout before the last sweep, and nobody
who was heard that recently is ever removed.
-/

namespace SlpClient.Lib.Liveness

/-- What happens to a roster, with the time where it matters. -/
inductive Happening (Key : Type) where
  | join (key : Key) (now : Int)
  | beat (key : Key) (now : Int)
  | leave (key : Key)
  | reset
  | sweep (now : Int)

/-- The members, and when each was heard last. -/
abbrev Roster (Key : Type) : Type := Key → Option Int

variable {Key : Type} [DecidableEq Key]

namespace Happening

/-- When this is a sign of life of a member. -/
def heard (key : Key) : Happening Key → Option Int
  | join other now | beat other now =>
      if other = key then some now else none
  | leave _ | reset | sweep _ => none

/-- When this is a sweep. -/
def swept : Happening Key → Option Int
  | sweep now => some now
  | join _ _ | beat _ _ | leave _ | reset => none

/-- When this happens, as far as it matters. -/
def time : Happening Key → Option Int
  | join _ now | beat _ now | sweep now => some now
  | leave _ | reset => none

/-- A sign of life and a sweep happen at their time. -/
theorem time_of_heard {key : Key} {happening : Happening Key} {seen : Int}
    (heard : happening.heard key = some seen) :
    happening.time = some seen := by
  cases happening with
  | join other now | beat other now =>
      rw [Happening.heard] at heard
      split at heard
      · exact heard
      · contradiction
  | leave | reset | sweep => contradiction

omit [DecidableEq Key] in
theorem time_of_swept {happening : Happening Key} {now : Int}
    (sweeps : happening.swept = some now) : happening.time = some now := by
  cases happening with
  | sweep => exact sweeps
  | join | beat | leave | reset => contradiction

end Happening

namespace Roster

/-- Nobody. -/
def empty : Roster Key := fun _ => none

/-- The roster after something happened. -/
def after (timeout : Int) (roster : Roster Key) :
    Happening Key → Roster Key
  | .join key now => Function.update roster key (some now)
  | .beat key now =>
      if roster key = none then roster
      else Function.update roster key (some now)
  | .leave key => Function.update roster key none
  | .reset => empty
  | .sweep now => fun key =>
      (roster key).filter fun seen => decide (now - seen < timeout)

/-- The roster after what may have happened. -/
def follow (timeout : Int) (roster : Roster Key) :
    Option (Happening Key) → Roster Key
  | none => roster
  | some happening => roster.after timeout happening

/-- A roster with its happenings as a machine. -/
def machine (timeout : Int) :
    Machine (Roster Key) (Happening Key) Unit :=
  ⟨fun roster happening => (roster.after timeout happening, ())⟩

variable {timeout : Int} {roster : Roster Key} {key : Key} {seen : Int}

@[simp]
theorem machine_next (happening : Happening Key) :
    (machine timeout).next roster happening =
      roster.after timeout happening :=
  rfl

@[simp]
theorem follow_none : roster.follow timeout none = roster :=
  rfl

@[simp]
theorem follow_some (happening : Happening Key) :
    roster.follow timeout (some happening) =
      roster.after timeout happening :=
  rfl

theorem machine_run_toList (happening : Option (Happening Key)) :
    (machine timeout).run roster happening.toList =
      roster.follow timeout happening := by
  cases happening <;> rfl

/-- The three ways to stop being a member. -/
theorem after_eq_none_iff (member : roster key = some seen)
    (happening : Happening Key) :
    roster.after timeout happening key = none ↔
      happening = .leave key ∨ happening = .reset ∨
        ∃ now, happening = .sweep now ∧ timeout ≤ now - seen := by
  cases happening with
  | join other now =>
      rw [after]
      by_cases same : key = other
      · subst same
        simp
      · simp [Function.update_of_ne same, member]
  | beat other now =>
      rw [after]
      split
      · simp [member]
      · by_cases same : key = other
        · subst same
          simp
        · simp [Function.update_of_ne same, member]
  | leave other =>
      rw [after]
      by_cases same : key = other
      · subst same
        simp
      · simp [Function.update_of_ne same, member, Ne.symm same]
  | reset => simp [after, empty]
  | sweep now => simp [after, member]

/-- A member was heard when this happened, or was a member already. -/
theorem after_eq_some {happening : Happening Key} {last : Int}
    (member : roster.after timeout happening key = some last) :
    happening.heard key = some last ∨
      (happening.heard key = none ∧ roster key = some last) := by
  cases happening with
  | join other now =>
      rw [after] at member
      by_cases same : key = other
      · subst same
        rw [Function.update_self] at member
        exact .inl ((if_pos rfl).trans member)
      · rw [Function.update_of_ne same] at member
        exact .inr ⟨if_neg (Ne.symm same), member⟩
  | beat other now =>
      rw [after] at member
      by_cases same : key = other
      · subst same
        split at member
        next stranger => rw [stranger] at member; contradiction
        · rw [Function.update_self] at member
          exact .inl ((if_pos rfl).trans member)
      · refine .inr ⟨if_neg (Ne.symm same), ?_⟩
        split at member
        · exact member
        · rwa [Function.update_of_ne same] at member
  | leave other =>
      rw [after] at member
      by_cases same : key = other
      · subst same
        rw [Function.update_self] at member
        contradiction
      · rw [Function.update_of_ne same] at member
        exact .inr ⟨rfl, member⟩
  | reset => contradiction
  | sweep now =>
      rw [after, Option.filter_eq_some_iff] at member
      exact .inr ⟨rfl, member.1⟩

/-- After a sweep only those remain who were heard in time. -/
theorem after_sweep_eq_some {now last : Int}
    (member : roster.after timeout (.sweep now) key = some last) :
    now - last < timeout := by
  rw [after, Option.filter_eq_some_iff] at member
  exact of_decide_eq_true member.2

/-! ## Runs -/

/-- The last sign of life of a member in a list of happenings. -/
def lastHeard (key : Key) (happenings : List (Happening Key)) :
    Option Int :=
  (happenings.filterMap (Happening.heard key)).getLast?

/-- The last sweep in a list of happenings. -/
def lastSweep (happenings : List (Happening Key)) : Option Int :=
  (happenings.filterMap Happening.swept).getLast?

theorem getLast?_filterMap_concat {α β : Type} (note : α → Option β)
    (entries : List α) (entry : α) :
    ((entries ++ [entry]).filterMap note).getLast? =
      (note entry).or (entries.filterMap note).getLast? := by
  rw [List.filterMap_append]
  cases noted : note entry with
  | none => simp [noted]
  | some value => simp [noted]

theorem run_concat (happenings : List (Happening Key))
    (happening : Happening Key) :
    (machine timeout).run roster (happenings ++ [happening]) =
      ((machine timeout).run roster happenings).after timeout happening := by
  rw [Machine.run_append, Machine.run_cons, Machine.run_nil, machine_next]

theorem lastHeard_concat (happenings : List (Happening Key))
    (happening : Happening Key) :
    lastHeard key (happenings ++ [happening]) =
      (happening.heard key).or (lastHeard key happenings) :=
  getLast?_filterMap_concat ..

omit [DecidableEq Key] in
theorem lastSweep_concat (happenings : List (Happening Key))
    (happening : Happening Key) :
    lastSweep (happenings ++ [happening]) =
      happening.swept.or (lastSweep happenings) :=
  getLast?_filterMap_concat ..

theorem lastHeard_append (first rest : List (Happening Key)) :
    lastHeard key (first ++ rest) =
      (lastHeard key rest).or (lastHeard key first) := by
  rw [lastHeard, List.filterMap_append, List.getLast?_append]
  rfl

/-- What a roster says about its members is when they were heard last. -/
theorem run_eq_lastHeard {happenings : List (Happening Key)}
    (member :
      (machine timeout).run empty happenings key = some seen) :
    lastHeard key happenings = some seen := by
  induction happenings using List.reverseRecOn with
  | nil => contradiction
  | append_singleton happenings happening induction =>
      rw [run_concat] at member
      rw [lastHeard_concat]
      rcases after_eq_some member with heard | ⟨quiet, before⟩
      · rw [heard, Option.some_or]
      · rw [quiet, Option.none_or]
        exact induction before

/-- After a member joined nothing ended it: it did not leave, nothing was
reset, and every sweep found a sign of life in time. -/
def Stays (timeout : Int) (key : Key) (joined : Int)
    (rest : List (Happening Key)) : Prop :=
  (∀ happening ∈ rest, happening ≠ .leave key ∧ happening ≠ .reset) ∧
    ∀ before now after, rest = before ++ .sweep now :: after →
      ∀ seen, lastHeard key (.join key joined :: before) = some seen →
        now - seen < timeout

theorem stays_nil (joined : Int) : Stays timeout key joined [] := by
  refine ⟨fun _ member => absurd member List.not_mem_nil, ?_⟩
  intro before now after cut
  have lengths := congrArg List.length cut
  rw [List.length_append, List.length_cons, List.length_nil] at lengths
  omega

theorem stays_concat_iff (joined : Int) (rest : List (Happening Key))
    (happening : Happening Key) :
    Stays timeout key joined (rest ++ [happening]) ↔
      Stays timeout key joined rest ∧
        (happening ≠ .leave key ∧ happening ≠ .reset) ∧
          ∀ now, happening = .sweep now →
            ∀ seen, lastHeard key (.join key joined :: rest) = some seen →
              now - seen < timeout := by
  constructor
  · rintro ⟨kept, swept⟩
    refine ⟨⟨?_, ?_⟩, ?_, ?_⟩
    · intro other member
      exact kept other (List.mem_append_left _ member)
    · intro before now after cut
      apply swept before now (after ++ [happening])
      rw [cut, List.append_assoc, List.cons_append]
    · exact kept happening (by simp)
    · intro now sweeps
      apply swept rest now []
      rw [sweeps]
  · rintro ⟨⟨kept, swept⟩, last, lastSwept⟩
    refine ⟨?_, ?_⟩
    · intro other member
      rcases List.mem_append.mp member with old | new
      · exact kept other old
      · rw [List.mem_singleton.mp new]
        exact last
    · intro before now after cut
      rcases List.eq_nil_or_concat after with rfl | ⟨more, final, rfl⟩
      · rcases List.append_inj' cut rfl with ⟨rfl, same⟩
        exact lastSwept now (List.singleton_inj.mp same)
      · apply swept before now more
        rw [List.concat_eq_append, ← List.cons_append,
          ← List.append_assoc] at cut
        exact (List.append_inj' cut rfl).1

/-- Only joining makes a member of a stranger. -/
theorem after_stranger {happening : Happening Key}
    (stranger : roster key = none)
    (elsewhere : ∀ now, happening ≠ .join key now) :
    roster.after timeout happening key = none := by
  cases happening with
  | join other now =>
      have apart : key ≠ other := by
        rintro rfl
        exact elsewhere now rfl
      rw [after, Function.update_of_ne apart, stranger]
  | beat other now =>
      rw [after]
      split
      · exact stranger
      next listed =>
        have apart : key ≠ other := by
          rintro rfl
          exact listed stranger
        rw [Function.update_of_ne apart, stranger]
  | leave other =>
      rw [after]
      by_cases same : key = other
      · rw [same, Function.update_self]
      · rw [Function.update_of_ne same, stranger]
  | reset => rfl
  | sweep now => simp only [after, stranger, Option.filter_none]

/-- Since a member joined, something was heard. -/
theorem exists_lastHeard_join (joined : Int)
    (rest : List (Happening Key)) :
    ∃ seen, lastHeard key (.join key joined :: rest) = some seen := by
  have heard : (Happening.join key joined).heard key = some joined :=
    if_pos rfl
  rw [lastHeard, List.filterMap_cons_some heard, List.getLast?_cons]
  exact ⟨_, rfl⟩

/-- The members after a run are those who joined and whom nothing ended. -/
theorem run_member_iff (happenings : List (Happening Key)) :
    (machine timeout).run empty happenings key ≠ none ↔
      ∃ first joined rest,
        happenings = first ++ .join key joined :: rest ∧
          Stays timeout key joined rest := by
  induction happenings using List.reverseRecOn with
  | nil =>
      refine iff_of_false (fun member => member rfl) ?_
      rintro ⟨first, joined, rest, cut, -⟩
      have lengths := congrArg List.length cut
      rw [List.length_append, List.length_cons, List.length_nil] at lengths
      omega
  | append_singleton happenings happening induction =>
      rw [run_concat]
      constructor
      · intro member
        by_cases joins : ∃ now, happening = .join key now
        · rcases joins with ⟨now, rfl⟩
          exact ⟨happenings, now, [], rfl, stays_nil now⟩
        · have before :
              (machine timeout).run empty happenings key ≠ none :=
            fun stranger =>
              member
                (after_stranger stranger fun now same => joins ⟨now, same⟩)
          rcases Option.ne_none_iff_exists'.mp before with ⟨seen, listed⟩
          rcases induction.mp before with
            ⟨first, joined, rest, cut, stays⟩
          refine ⟨first, joined, rest ++ [happening], ?_, ?_⟩
          · rw [cut, List.append_assoc, List.cons_append]
          · have ended := mt (after_eq_none_iff listed happening).mpr member
            rw [not_or, not_or] at ended
            refine
              (stays_concat_iff ..).mpr ⟨stays, ⟨ended.1, ended.2.1⟩, ?_⟩
            intro now sweeps other heard
            have same : lastHeard key happenings = some other := by
              rw [cut, lastHeard_append, heard, Option.some_or]
            rw [run_eq_lastHeard listed, Option.some.injEq] at same
            rw [← same]
            exact Int.not_le.mp fun late => ended.2.2 ⟨now, sweeps, late⟩
      · rintro ⟨first, joined, rest, cut, stays⟩
        rcases List.eq_nil_or_concat rest with rfl | ⟨more, final, rfl⟩
        · rcases List.append_inj' cut rfl with ⟨-, same⟩
          rw [List.singleton_inj.mp same, after, Function.update_self]
          nofun
        · rw [List.concat_eq_append] at cut stays
          rw [← List.cons_append, ← List.append_assoc] at cut
          rcases List.append_inj' cut rfl with ⟨front, same⟩
          have last := List.singleton_inj.mp same
          subst last
          rcases (stays_concat_iff ..).mp stays with ⟨kept, apart, swept⟩
          have before :=
            induction.mpr ⟨first, joined, more, front, kept⟩
          rcases Option.ne_none_iff_exists'.mp before with ⟨seen, listed⟩
          intro gone
          rcases (after_eq_none_iff listed happening).mp gone with
            leaves | resets | ⟨now, sweeps, late⟩
          · exact apart.1 leaves
          · exact apart.2 resets
          · have heard := run_eq_lastHeard listed
            rw [front, lastHeard_append] at heard
            rcases exists_lastHeard_join joined more with ⟨other, latest⟩
            rw [latest, Option.some_or, Option.some.injEq] at heard
            subst heard
            exact Int.not_le.mpr (swept now sweeps other latest) late

/-- A roster is what its happenings say. -/
theorem run_eq_some_iff (happenings : List (Happening Key)) :
    (machine timeout).run empty happenings key = some seen ↔
      (∃ first joined rest,
        happenings = first ++ .join key joined :: rest ∧
          Stays timeout key joined rest) ∧
        lastHeard key happenings = some seen := by
  constructor
  · intro member
    refine ⟨(run_member_iff happenings).mp ?_, run_eq_lastHeard member⟩
    rw [member]
    nofun
  · rintro ⟨stays, heard⟩
    rcases Option.ne_none_iff_exists'.mp
        ((run_member_iff happenings).mpr stays) with ⟨other, member⟩
    rwa [← heard, run_eq_lastHeard member]

/-- With a clock that does not run backwards, a member was heard less than
the timeout before the last sweep. -/
theorem run_recent {happenings : List (Happening Key)}
    (ordered :
      (happenings.filterMap Happening.time).Pairwise (· ≤ ·))
    (member : (machine timeout).run empty happenings key = some seen)
    (positive : 0 < timeout) {now : Int}
    (swept : lastSweep happenings = some now) : now - seen < timeout := by
  induction happenings using List.reverseRecOn with
  | nil => contradiction
  | append_singleton happenings happening induction =>
      rw [run_concat] at member
      rw [lastSweep_concat] at swept
      rw [List.filterMap_append, List.pairwise_append] at ordered
      rcases Option.eq_none_or_eq_some happening.swept with
        quiet | ⟨time, sweeps⟩
      · rw [quiet, Option.none_or] at swept
        rcases after_eq_some member with heard | ⟨-, before⟩
        · have timed := Happening.time_of_heard heard
          have listed :
              now ∈ happenings.filterMap Happening.time := by
            rcases List.mem_filterMap.mp (List.mem_of_getLast? swept) with
              ⟨earlier, inside, found⟩
            exact
              List.mem_filterMap.mpr
                ⟨earlier, inside, Happening.time_of_swept found⟩
          have order :=
            ordered.2.2 now listed seen (by simp [timed])
          omega
        · exact induction ordered.1 before swept
      · rw [sweeps, Option.some_or, Option.some.injEq] at swept
        subst swept
        cases happening with
        | sweep other =>
            rw [Happening.swept, Option.some.injEq] at sweeps
            subst sweeps
            exact after_sweep_eq_some member
        | join | beat | leave | reset => contradiction

end Roster

end SlpClient.Lib.Liveness
