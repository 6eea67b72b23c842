import NewApi.Runs
import Mathlib.Data.List.Induction
import Mathlib.Order.Lattice

/-!
The in-memory rate limiter (common/rate-limit.go). A mutex makes each call one step. A key has
a queue of accepted times, oldest first, until a clean-up deletes it.
-/

namespace NewApi.RateLimiter

open Runs List

structure RateLimitEntry where
  timestamps : List Int
  duration : Int

/-- `Request` on the entry of its key, and its answer. -/
def request (maxRequestNum : Nat) (duration now : Int) :
    Option RateLimitEntry → RateLimitEntry × Bool
  | none => (⟨[now], duration⟩, true)
  | some entry =>
    if entry.timestamps.length < maxRequestNum then (⟨entry.timestamps ++ [now], duration⟩, true)
    else match entry.timestamps with
      | oldest :: newer =>
        if now - oldest ≥ duration then (⟨newer ++ [now], duration⟩, true)
        else (⟨oldest :: newer, duration⟩, false)
      -- No entry without a time is stored.
      | [] => (⟨[], duration⟩, false)

def expired (now : Int) (entry : RateLimitEntry) : Bool :=
  match entry.timestamps.getLast? with
  | none => true
  | some newest => now - newest ≥ entry.duration

structure State where
  store : String → Option RateLimitEntry := fun _ => none
  -- The accepted requests in their order, and the latest time a call has read for each key.
  accepted : List (String × Int) := []
  clock : String → Int

inductive Event where
  | request (key : String) (maxRequestNum : Nat) (duration now : Int)
  | clearExpiredItemsAt (now : Int)

def step (state : State) : Event → State
  | .request key maxRequestNum duration now =>
    let answered := request maxRequestNum duration now (state.store key)
    { store := Function.update state.store key (some answered.1)
      accepted := if answered.2 then state.accepted ++ [(key, now)] else state.accepted
      clock := Function.update state.clock key now }
  | .clearExpiredItemsAt now =>
    { state with
      store := fun key => (state.store key).filter fun entry => !expired now entry
      clock := fun key => max (state.clock key) now }

def times (key : String) (state : State) : List Int :=
  (state.accepted.filter (·.1 = key)).map Prod.snd

def inWindow (start duration : Int) (times : List Int) : Nat :=
  times.countP fun time => start ≤ time && time < start + duration

def queueOf (entry : Option RateLimitEntry) : List Int :=
  entry.elim [] RateLimitEntry.timestamps

variable (key : String) (limit : Nat) (window : Int)

/-- A request of the key has these limits, and a time no earlier than that of the requests of
the key and the clean-ups before it. -/
def Timely (state : State) : Event → Prop
  | .request other maxRequestNum duration now =>
    other = key → maxRequestNum = limit ∧ duration = window ∧ state.clock key ≤ now
  | .clearExpiredItemsAt _ => True

/-- The limiter that keeps every accepted time. -/
def accept (times : List Int) : Event → List Int
  | .request other _ _ now =>
    if other = key ∧ inWindow (now - window + 1) window times < limit then times ++ [now] else times
  | .clearExpiredItemsAt _ => times

/-- A queue against the accepted times: those that have left it are out of every later window. -/
structure Tracks (clock : Int) (queue times : List Int) : Prop where
  windows : ∀ start, inWindow start window times ≤ limit
  short : queue.length ≤ limit
  sorted : queue.Pairwise (· ≤ ·)
  past : ∀ time ∈ queue, time ≤ clock
  gone : ∃ old, times = old ++ queue ∧ ∀ time ∈ old, time + window ≤ clock

def Sound (state : State) : Prop :=
  Tracks limit window (state.clock key) (queueOf (state.store key)) (times key state) ∧
    ∀ entry ∈ state.store key, entry.duration = window

variable {key limit window}
variable {clock now oldest : Int} {accepted rest queue newer : List Int}

/-- Times leave the queue when their window is over. -/
theorem Tracks.leave (front : List Int)
    (tracks : Tracks limit window clock (front ++ rest) accepted) (later : clock ≤ now)
    (left : ∀ time ∈ front, time + window ≤ now) : Tracks limit window now rest accepted := by
  obtain ⟨windows, short, sorted, past, old, split, out⟩ := tracks
  refine ⟨windows, by grind, by grind, fun time member => ?_, old ++ front, by grind,
    fun time member => ?_⟩
  · exact (past time (mem_append_right _ member)).trans later
  · rcases mem_append.mp member with member | member
    · exact (out time member).trans later
    · exact left time member

theorem Tracks.push (tracks : Tracks limit window now queue accepted)
    (room : queue.length < limit) :
    Tracks limit window now (queue ++ [now]) (accepted ++ [now]) := by
  obtain ⟨windows, short, sorted, past, old, split, out⟩ := tracks
  refine ⟨fun start => ?_, by grind, by grind, by grind, old, by grind, out⟩
  rw [inWindow, countP_append, countP_singleton]
  split
  · next inside =>
    -- A window with the new time holds none of the times that have left the queue.
    have none : inWindow start window old = 0 := by
      refine countP_eq_zero.mpr fun time member => ?_
      have := out time member
      grind
    have most : inWindow start window queue ≤ queue.length := countP_le_length
    rw [split, countP_append]
    dsimp only [inWindow] at none most
    omega
  · exact windows start

/-- The queue of a refused request holds the times of the preceding window. -/
theorem Tracks.full (tracks : Tracks limit window now (oldest :: newer) accepted)
    (long : limit ≤ (oldest :: newer).length) (recent : now - oldest < window) :
    inWindow (now - window + 1) window accepted = limit := by
  obtain ⟨old, split, -⟩ := tracks.gone
  have all : inWindow (now - window + 1) window (oldest :: newer) = (oldest :: newer).length := by
    refine countP_eq_length.mpr fun time member => ?_
    have := tracks.past time member
    have : oldest ≤ time := by
      rcases mem_cons.mp member with rfl | member
      · exact le_rfl
      · exact (pairwise_cons.mp tracks.sorted).1 time member
    simp only [Bool.and_eq_true, decide_eq_true_eq]
    omega
  refine (tracks.windows _).antisymm (long.trans ?_)
  rw [← all, split]
  exact (Nat.le_add_left _ _).trans_eq countP_append.symm

/-- When the newest time has left its window, so has every time of the queue. -/
theorem Tracks.expire {entry : RateLimitEntry}
    (tracks : Tracks limit entry.duration clock entry.timestamps accepted)
    (gone : expired now entry = true) :
    Tracks limit entry.duration (max clock now) [] accepted := by
  refine Tracks.leave entry.timestamps (by rwa [append_nil]) (le_max_left _ _)
    fun time member => ?_
  have sorted := tracks.sorted
  obtain ⟨front, newest, split⟩ : ∃ front newest, entry.timestamps = front ++ [newest] :=
    ⟨_, _, (dropLast_concat_getLast (ne_nil_of_mem member)).symm⟩
  rw [split] at sorted member
  have last : entry.duration ≤ now - newest := by simpa [expired, split] using gone
  have : time ≤ newest := by
    rcases mem_append.mp member with member | member
    · exact (pairwise_append.mp sorted).2.2 time member newest (mem_singleton.mpr rfl)
    · exact (mem_singleton.mp member).le
  omega

section
variable (positive : 1 ≤ limit)
include positive

theorem request_spec (entry : Option RateLimitEntry)
    (tracks : Tracks limit window now (queueOf entry) accepted) :
    let answered := request limit window now entry
    answered.1.duration = window ∧
      Tracks limit window now answered.1.timestamps
        (if answered.2 then accepted ++ [now] else accepted) ∧
      (answered.2 = false → inWindow (now - window + 1) window accepted = limit) := by
  match entry, tracks with
  | none, tracks => exact ⟨rfl, tracks.push positive, nofun⟩
  | some ⟨[], _⟩, tracks =>
    dsimp only [request]
    rw [if_pos (by exact positive)]
    exact ⟨rfl, tracks.push positive, nofun⟩
  | some ⟨oldest :: newer, _⟩, tracks =>
    dsimp only [request]
    by_cases room : (oldest :: newer).length < limit
    · rw [if_pos room]
      exact ⟨rfl, tracks.push room, nofun⟩
    rw [if_neg room]
    by_cases elapsed : now - oldest ≥ window
    · rw [if_pos elapsed]
      have left := Tracks.leave [oldest] tracks le_rfl fun time member => by
        rw [mem_singleton.mp member]
        omega
      exact ⟨rfl, left.push tracks.short, nofun⟩
    · rw [if_neg elapsed]
      exact ⟨rfl, tracks, fun _ => tracks.full (not_lt.mp room) (not_le.mp elapsed)⟩

theorem step_sound (state : State) (event : Event) (timely : Timely key limit window state event)
    (sound : Sound key limit window state) : Sound key limit window (step state event) := by
  obtain ⟨tracks, windows⟩ := sound
  match event, timely with
  | .request other maxRequestNum duration now, timely =>
    by_cases own : other = key
    · obtain ⟨rfl, rfl, later⟩ := timely own
      subst own
      obtain ⟨lasts, tracks, -⟩ := request_spec positive _ (tracks.leave [] later nofun)
      exact ⟨by simpa [step, queueOf, times, apply_ite] using tracks, by simpa [step] using lasts⟩
    · have apart : key ≠ other := fun same => own same.symm
      simpa [Sound, step, times, apart, own, apply_ite] using And.intro tracks windows
  | .clearExpiredItemsAt now, _ =>
    refine ⟨?_, fun entry member => windows entry (Option.mem_filter_iff.mp member).1⟩
    have later := tracks.leave [] (le_max_left _ now) nofun
    dsimp only [step]
    cases found : state.store key with
    | none => rwa [found] at later
    | some entry =>
      obtain rfl := windows entry found
      rw [found] at tracks later
      rw [Option.filter_some]
      split
      · exact later
      · next kept => exact tracks.expire (by simpa using kept)

theorem run_sound (clock : String → Int) (events : List Event)
    (timely : AllSteps step (Timely key limit window) { clock } events) :
    Sound key limit window (run step { clock } events) := by
  have empty : Tracks limit window (clock key) [] [] :=
    ⟨fun _ => Nat.zero_le _, Nat.zero_le _, .nil, nofun, [], rfl, nofun⟩
  exact run_invariant (step_sound positive) _ _ timely ⟨empty, nofun⟩

/-- At most `limit` requests of a key are accepted in any window, and a refused request has as
many in the window that ends with it. -/
theorem request_is_a_sliding_window (clock : String → Int) (events : List Event)
    (timely : AllSteps step (Timely key limit window) { clock } events) :
    (∀ start, inWindow start window (times key (run step { clock } events)) ≤ limit) ∧
      ∀ before now after, events = before ++ .request key limit window now :: after →
        let state := run step { clock } before
        (request limit window now (state.store key)).2 = false →
          inWindow (now - window + 1) window (times key state) = limit := by
  refine ⟨(run_sound positive clock events timely).1.windows, ?_⟩
  rintro before now after rfl state refused
  have sound := run_sound positive clock before timely.of_append
  have later := (timely.of_append_right.1 rfl).2.2
  exact (request_spec positive _ (sound.1.leave [] later nofun)).2.2 refused

theorem request_accepts_iff {entry : Option RateLimitEntry}
    (tracks : Tracks limit window now (queueOf entry) accepted) :
    (request limit window now entry).2 = true ↔
      inWindow (now - window + 1) window accepted < limit := by
  obtain ⟨-, after, refused⟩ := request_spec positive entry tracks
  refine ⟨fun answer => ?_, fun room => by grind⟩
  have windows := after.windows (now - window + 1)
  rw [if_pos answer, inWindow, countP_append, countP_singleton] at windows
  split at windows
  · exact windows
  · -- A window of no length holds no time.
    exact (countP_eq_zero.mpr fun time _ => by grind).trans_lt positive

theorem step_accepts {state : State} {event : Event} (timely : Timely key limit window state event)
    (sound : Sound key limit window state) :
    times key (step state event) = accept key limit window (times key state) event := by
  cases event with
  | clearExpiredItemsAt now => rfl
  | request other maxRequestNum duration now =>
    by_cases own : other = key
    · obtain ⟨rfl, rfl, later⟩ := timely own
      subst own
      have decided := request_accepts_iff positive (sound.1.leave [] later nofun)
      simp only [accept, ← decided]
      simp [step, times, apply_ite]
    · simp [step, times, accept, own, apply_ite]

/-- The queues and the clean-ups decide as the limiter that forgets nothing. -/
theorem request_refines_accept (clock : String → Int) (events : List Event)
    (timely : AllSteps step (Timely key limit window) { clock } events) :
    times key (run step { clock } events) = run (accept key limit window) [] events := by
  induction events using reverseRecOn with
  | nil => rfl
  | append_singleton before event ih =>
    have sound := run_sound positive clock before timely.of_append
    rw [run_append, run_append, ← ih timely.of_append]
    exact step_accepts positive timely.of_append_right.1 sound

end

def secondTooEarly : List Event :=
  [.request "ip" 1 10 0, .clearExpiredItemsAt 5, .request "ip" 1 10 9]

theorem second_request_refused :
    (request 1 10 9 ((run step { clock := fun _ => 0 } (secondTooEarly.take 2)).store "ip")).2 =
      false ∧
    inWindow 0 10 (times "ip" (run step { clock := fun _ => 0 } (secondTooEarly.take 2))) = 1 := by
  have timely : AllSteps step (Timely "ip" 1 10) { clock := fun _ => 0 } secondTooEarly := by
    simp [secondTooEarly, AllSteps, Timely, step]
  refine ⟨by decide, ?_⟩
  exact (request_is_a_sliding_window le_rfl _ _ timely).2 _ 9 [] rfl (by decide)

theorem second_request_dropped :
    times "ip" (run step { clock := fun _ => 0 } secondTooEarly) =
      run (accept "ip" 1 10) [] secondTooEarly :=
  request_refines_accept le_rfl _ _ (by simp [secondTooEarly, AllSteps, Timely, step])

theorem request_after_early_clean_up :
    inWindow 0 10 (times "ip" (run step { clock := fun _ => 0 }
      [.request "ip" 1 10 0, .clearExpiredItemsAt 100, .request "ip" 1 10 1])) = 2 := by
  decide

end NewApi.RateLimiter
