import Mathlib.Data.List.Chain

/-!
# A gate that opens now and then

Work that must not be done too often is put behind a gate: it is polled
again and again, and opens when enough time has passed since it opened last.
Its openings are never closer than the interval, and when it is polled often
enough they are not much further apart either.
-/

namespace SlpClient.Lib.Cadence

/-- The polls at which a gate opens that opened at `last`. -/
def openings (interval last : Int) : List Int → List Int
  | [] => []
  | now :: rest =>
      if now - last < interval then openings interval last rest
      else now :: openings interval now rest

/-- When the gate opened last, after these polls. -/
def lastOpening (interval last : Int) (polls : List Int) : Int :=
  (openings interval last polls).getLastD last

variable {interval last opened step : Int} {polls : List Int}

theorem openings_append (first rest : List Int) :
    openings interval last (first ++ rest) =
      openings interval last first ++
        openings interval (lastOpening interval last first) rest := by
  induction first generalizing last with
  | nil => rfl
  | cons now first induction =>
      rw [List.cons_append, openings, openings]
      unfold lastOpening
      rw [openings]
      by_cases early : now - last < interval
      · rw [if_pos early, if_pos early]
        exact induction
      · rw [if_neg early, if_neg early, induction, List.cons_append,
          List.getLastD_cons]
        rfl

theorem lastOpening_concat (first : List Int) (now : Int) :
    lastOpening interval last (first ++ [now]) =
      if now - lastOpening interval last first < interval then
        lastOpening interval last first
      else now := by
  unfold lastOpening
  rw [openings_append, openings]
  split
  next early =>
    rw [openings, List.append_nil]
    exact (if_pos early).symm
  next due =>
    rw [openings, List.getLastD_concat]
    exact (if_neg due).symm

/-- At any poll, the last opening is not long ago. -/
theorem lastOpening_recent (positive : 0 < interval) (first : List Int)
    (now : Int) :
    now - lastOpening interval last (first ++ [now]) < interval := by
  rw [lastOpening_concat]
  split
  next early => exact early
  next due =>
    rw [Int.sub_self]
    exact positive

/-- A gate that is polled often is not closed for long when it is polled. -/
theorem lastOpening_dense (positive : 0 < interval) {first rest : List Int}
    {now : Int}
    (often :
      (last :: (first ++ now :: rest)).IsChain
        fun earlier later => later - earlier ≤ step) :
    now - lastOpening interval last first < interval + step := by
  rcases List.eq_nil_or_concat' first with rfl | ⟨polled, poll, rfl⟩
  · have soon := (List.isChain_cons_cons.mp often).1
    show now - last < interval + step
    omega
  · have recent :
        poll - lastOpening interval last (polled ++ [poll]) < interval :=
      lastOpening_recent positive polled poll
    rw [List.append_assoc, List.singleton_append, ← List.cons_append]
      at often
    have soon : now - poll ≤ step :=
      (List.isChain_cons_cons.mp (List.isChain_append.mp often).2.1).1
    omega

/-- Between two openings at least the interval passes. -/
theorem openings_spaced :
    (last :: openings interval last polls).IsChain
      fun earlier later => interval ≤ later - earlier := by
  induction polls generalizing last with
  | nil => exact List.isChain_singleton last
  | cons now rest induction =>
      rw [openings]
      split
      · exact induction
      next due =>
        exact List.isChain_cons_cons.mpr ⟨Int.not_lt.mp due, induction⟩

theorem openings_dense_from {polled : Int}
    (recent : polled - opened < interval)
    (positive : 0 < interval)
    (often :
      (polled :: polls).IsChain
        fun earlier later => later - earlier ≤ step) :
    (opened :: openings interval opened polls).IsChain
      fun earlier later => later - earlier < interval + step := by
  induction polls generalizing opened polled with
  | nil => exact List.isChain_singleton opened
  | cons now rest induction =>
      rcases List.isChain_cons_cons.mp often with ⟨soon, later⟩
      rw [openings]
      split
      next early => exact induction early later
      next due =>
        refine List.isChain_cons_cons.mpr ⟨by omega, ?_⟩
        exact induction (by omega) later

/-- A gate that is polled often opens in time. -/
theorem openings_dense (positive : 0 < interval)
    (often :
      (last :: polls).IsChain
        fun earlier later => later - earlier ≤ step) :
    (last :: openings interval last polls).IsChain
      fun earlier later => later - earlier < interval + step :=
  openings_dense_from (by omega) positive often

end SlpClient.Lib.Cadence
