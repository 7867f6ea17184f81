import PumoBioMetric.Library.EventStream
import PumoBioMetric.Library.TransitionRun
import PumoBioMetric.Py.JsonText
import PumoBioMetric.Router.PunchLog

/-!
# The live feed

`SSE_SUBSCRIBERS`, `sse_events` and the queues that `broadcast_punch` fills.  The handlers run on
one event loop, so that what happens between two waits is one step.
-/

set_option autoImplicit false

namespace PumoBioMetric.Router

open EventStream Py TransitionRun

/-! ## The feed -/

def recordJson (punch : PunchRecord) : Json :=
  .obj ([("id", .str punch.id), ("sn", .str punch.sn), ("userId", .str punch.userId),
    ("userName", .str punch.userName), ("userRole", .str punch.userRole),
    ("timestamp", .str punch.timestamp), ("status", .str punch.status),
    ("verifyType", .str punch.verifyType), ("workCode", .str punch.workCode),
    ("raw", .str punch.raw), ("receivedAt", .str punch.receivedAt)] ++
    (punch.statusLabel.map fun label => ("statusLabel", Json.str label)).toList ++
    (punch.verifyLabel.map fun label => ("verifyLabel", Json.str label)).toList)

/-- The dashboard's state, and for each call of `sse_events`, by number, its queue and what its
generator has yielded. -/
structure LiveFeed where
  dashboard : Dashboard
  /-- `SSE_SUBSCRIBERS`. -/
  subscribers : List Nat
  connected : Nat
  queued : Nat → List (List Char)
  sent : Nat → List Char

def LiveFeed.initial (dashboard : Dashboard) : LiveFeed :=
  ⟨dashboard, [], 0, fun _ => [], fun _ => []⟩

inductive FeedCall where
  /-- `GET /events` -/
  | events
  | broadcast (lms : LmsNames) (now : Int) (writable : Bool) (punch : PunchRecord)
  /-- `queue.get()` returns. -/
  | get (client : Nat)
  /-- `queue.get()` waits for 15 seconds. -/
  | timeout (client : Nat)
  /-- The generator ends, and its `finally` has run. -/
  | disconnect (client : Nat)

def keepalive : Block := .comment "keepalive".toList

section

variable [IsoFormat]

def LiveFeed.announcement (feed : LiveFeed) : FeedCall → Option PunchRecord
  | .broadcast lms now writable punch => (broadcastPunch lms now writable feed.dashboard punch).1
  | _ => none

def LiveFeed.put (feed : LiveFeed) (announced : Option PunchRecord) : Nat → List (List Char) :=
  fun client =>
    if client ∈ feed.subscribers then
      feed.queued client ++ (announced.map fun punch => dumps (recordJson punch)).toList
    else feed.queued client

/-- One step; `none` where it cannot happen. -/
def LiveFeed.step (feed : LiveFeed) : FeedCall → Option LiveFeed
  | .events =>
      some { feed with
        subscribers := feed.subscribers ++ [feed.connected]
        connected := feed.connected + 1 }
  | .broadcast lms now writable punch =>
      let ran := broadcastPunch lms now writable feed.dashboard punch
      some { feed with dashboard := ran.2, queued := feed.put ran.1 }
  | .get client =>
      match feed.queued client with
      | [] => none
      | data :: rest =>
          if client ∈ feed.subscribers then
            some { feed with
              queued := Function.update feed.queued client rest
              sent := Function.update feed.sent client
                (feed.sent client ++ (Block.event data).text) }
          else none
  | .timeout client =>
      if client ∈ feed.subscribers ∧ feed.queued client = [] then
        some { feed with
          sent := Function.update feed.sent client (feed.sent client ++ keepalive.text) }
      else none
  | .disconnect client =>
      if client ∈ feed.subscribers then
        some { feed with subscribers := feed.subscribers.filter (· ≠ client) }
      else none

def LiveFeed.Step (before : LiveFeed) (call : FeedCall) (after : LiveFeed) : Prop :=
  before.step call = some after

/-- The punches that the calls announce while the client is subscribed. -/
def announcedTo (client : Nat) : LiveFeed → List FeedCall → List PunchRecord
  | _, [] => []
  | feed, call :: rest =>
      (if client ∈ feed.subscribers then (feed.announcement call).toList else []) ++
        match feed.step call with
        | some next => announcedTo client next rest
        | none => []

/-! ## One client -/

omit [IsoFormat] in
theorem recordJson_wellFormed (punch : PunchRecord) : (recordJson punch).WellFormed := by
  cases status : punch.statusLabel <;> cases verify : punch.verifyLabel <;>
    simp [recordJson, status, verify, Json.WellFormed, Json.MembersWellFormed]

omit [IsoFormat] in
theorem event_oneLine (punch : PunchRecord) : (Block.event (dumps (recordJson punch))).OneLine := by
  have printable := dumps_printable (recordJson_wellFormed punch)
  constructor
  · intro member
    exact absurd (printable '\n' member) (by decide)
  · intro member
    exact absurd (printable '\r' member) (by decide)

omit [IsoFormat] in
theorem keepalive_oneLine : keepalive.OneLine := by
  constructor <;> decide

/-- What a client has been sent and what waits for it are the punches announced to it. -/
def ClientGot (client : Nat) (announced : List PunchRecord) (feed : LiveFeed) : Prop :=
  ∃ blocks : List Block, (∀ block ∈ blocks, block.OneLine) ∧
    feed.sent client = blocks.flatMap Block.text ∧
    blocks.filterMap Block.data? ++ feed.queued client =
      announced.map fun punch => dumps (recordJson punch)

theorem clientGot_step {client : Nat} {announced : List PunchRecord} {before after : LiveFeed}
    {call : FeedCall} (got : ClientGot client announced before) (taken : before.Step call after) :
    ClientGot client (announced ++ if client ∈ before.subscribers then
      (before.announcement call).toList else []) after := by
  obtain ⟨blocks, oneLine, sent, texts⟩ := got
  cases call with
  | events =>
      cases taken
      exact ⟨blocks, oneLine, sent, by simpa [LiveFeed.announcement] using texts⟩
  | broadcast lms now writable punch =>
      cases taken
      refine ⟨blocks, oneLine, sent, ?_⟩
      simp only [LiveFeed.put, LiveFeed.announcement]
      by_cases listens : client ∈ before.subscribers
      · rw [if_pos listens, if_pos listens, ← List.append_assoc, texts, List.map_append,
          Option.toList_map]
      · rw [if_neg listens, if_neg listens, texts, List.append_nil]
  | get other =>
      simp only [LiveFeed.Step, LiveFeed.step] at taken
      cases waiting : before.queued other with
      | nil => simp [waiting] at taken
      | cons data rest =>
          simp only [waiting] at taken
          split at taken
          · cases taken
            by_cases same : client = other
            · subst same
              refine ⟨blocks ++ [.event data], ?_, ?_, ?_⟩
              · have written : data ∈ announced.map fun punch => dumps (recordJson punch) := by
                  rw [← texts, waiting]
                  exact List.mem_append_right _ List.mem_cons_self
                obtain ⟨punch, _, rfl⟩ := List.mem_map.mp written
                simpa [or_imp, forall_and] using ⟨oneLine, event_oneLine punch⟩
              · simp [sent]
              · rw [waiting] at texts
                simpa [LiveFeed.announcement, Block.data?] using texts
            · refine ⟨blocks, oneLine, ?_, ?_⟩
              · simp [Function.update_of_ne same, sent]
              · simpa [LiveFeed.announcement, Function.update_of_ne same] using texts
          · cases taken
  | timeout other =>
      simp only [LiveFeed.Step, LiveFeed.step] at taken
      split at taken
      · cases taken
        by_cases same : client = other
        · subst same
          refine ⟨blocks ++ [keepalive], ?_, by simp [sent], ?_⟩
          · simpa [or_imp, forall_and] using ⟨oneLine, keepalive_oneLine⟩
          · have silent : keepalive.data? = none := rfl
            simpa [LiveFeed.announcement, silent] using texts
        · refine ⟨blocks, oneLine, ?_, by simpa [LiveFeed.announcement] using texts⟩
          simp [Function.update_of_ne same, sent]
      · cases taken
  | disconnect other =>
      simp only [LiveFeed.Step, LiveFeed.step] at taken
      split at taken
      · cases taken
        exact ⟨blocks, oneLine, sent, by simpa [LiveFeed.announcement] using texts⟩
      · cases taken

theorem clientGot_run {client : Nat} {before after : LiveFeed} {calls : List FeedCall}
    (run : Run LiveFeed.Step before calls after) {announced : List PunchRecord}
    (got : ClientGot client announced before) :
    ClientGot client (announced ++ announcedTo client before calls) after := by
  induction run generalizing announced with
  | nil feed => simpa [announcedTo] using got
  | cons taken _ ih =>
      have onward := ih (clientGot_step got taken)
      rw [List.append_assoc] at onward
      rw [announcedTo, show _ = some _ from taken]
      exact onward

/-! ## Every client -/

/-- However broadcasts, clients and keepalives interleave: what a dashboard decodes from its
stream, followed by what waits in its queue, is each punch announced while it was subscribed,
once and in order; from a part of the stream it decodes the first of them. -/
theorem live_feed_exact {dashboard : Dashboard} {calls : List FeedCall} {feed : LiveFeed}
    (run : Run LiveFeed.Step (.initial dashboard) calls feed) (client : Nat) :
    (read (feed.sent client)).events.map loads ++ (feed.queued client).map loads =
        (announcedTo client (.initial dashboard) calls).map
          (fun punch => some (recordJson punch)) ∧
      ∀ received, received <+: feed.sent client → (read received).events.map loads <+:
        (announcedTo client (.initial dashboard) calls).map fun punch =>
          some (recordJson punch) := by
  have start : ClientGot client [] (.initial dashboard) := ⟨[], by simp, rfl, rfl⟩
  obtain ⟨blocks, oneLine, sent, texts⟩ := clientGot_run run start
  rw [List.nil_append] at texts
  have decoded : (announcedTo client (.initial dashboard) calls).map
      (fun punch => some (recordJson punch)) =
        ((announcedTo client (.initial dashboard) calls).map
          fun punch => dumps (recordJson punch)).map loads := by
    rw [List.map_map]
    refine List.map_congr_left fun punch _ => ?_
    exact (loads_dumps (recordJson_wellFormed punch)).symm
  have events : (read (feed.sent client)).events = blocks.filterMap Block.data? := by
    rw [sent, read_blocks oneLine]
  rw [decoded, ← texts, ← events, List.map_append]
  refine ⟨rfl, fun received arrived => ?_⟩
  exact ((read_of_part arrived).map loads).trans (List.prefix_append _ _)

end

def morningPunch : PunchRecord :=
  { id := "1-a", sn := "ZK1", userId := "7", userName := "Ann", userRole := "Staff",
    timestamp := "2026-08-15 09:00:00", status := "0", verifyType := "1", workCode := "0",
    raw := "7\t2026-08-15 09:00:00", receivedAt := "2026-08-15T09:00:01" }

def morningCalls : List FeedCall :=
  [.events, .timeout 0, .broadcast (fun _ => none) 0 true morningPunch, .events]

theorem live_feed_exact_one_punch :
    ∃ feed, Run (@LiveFeed.Step .extended) (.initial ⟨[], some [], []⟩) morningCalls feed ∧
      (read (feed.sent 0)).events.map loads ++ (feed.queued 0).map loads =
        (@announcedTo .extended 0 (.initial ⟨[], some [], []⟩) morningCalls).map
          fun punch => some (recordJson punch) := by
  let := IsoFormat.extended
  have run : Run LiveFeed.Step (.initial ⟨[], some [], []⟩) morningCalls _ := Run.of_foldlM rfl
  exact ⟨_, run, (live_feed_exact run 0).1⟩

end PumoBioMetric.Router
