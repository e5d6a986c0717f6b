import Gatehouse.Admission.Verdict
import Gatehouse.Config.Load
import Gatehouse.Events.Event
import Gatehouse.Proofs.Loading
import Gatehouse.Proofs.Readback
import Gatehouse.Session.Record

/-!
# Written forms

The configuration, the events of admission, the counters, the session records and the verdicts of
the oracle are all written into data trees and read out of them. Each is read back as it was.

## What is written of an absent value

A value that may be absent is written as `null` if it is, and reading takes `null` for its absence.
The consumer of an event is the exception: it is left out. That is read as well, since a field that
may be absent need not stand in a record, even where no default is named for it.

Everything else is written with all its fields, so that reading has no default to fall back on, and
a configuration that was read and accepted once is written the same way ever after.

## Main definitions

* `Config.normal?` — a configuration with its defaults resolved

## Main results

* `Uuid.read?_text` — an identifier is read from its text
* `Config.reads`, `AdmissionEvent.reads` — a configuration and an event are read back
* `written_read_back` — all that is written is read back
-/

namespace Gatehouse

open Datum (Alike)
open Shape (Reads)

/-! ### The parts of a configuration -/

section

variable (dialect : Dialect)

theorem Node.reads : Reads (Node.ofDatum dialect) Node.toDatum := by
  intro n d hd
  obtain ⟨p, hparts, hp⟩ := Shape.exists_parts (by simp) hd
  have hhost := hp.required "host" rfl (Shape.reads_text n.host)
  have hport := hp.required "port" rfl (Shape.reads_uint16 n.port)
  have hbase := hp.withDefault "base_path" rfl (Shape.reads_text n.basePath) ""
  have hscheme := hp.withDefault "scheme" rfl (Shape.reads_text n.scheme) "http"
  simp only [Node.ofDatum, hparts, hhost, hport, hbase, hscheme, bind, Except.bind, pure,
    Except.pure]

theorem AffinitySource.reads : Reads (AffinitySource.ofDatum dialect) AffinitySource.toDatum :=
  Reads.oneOf fun a => by cases a <;> exact ⟨_, rfl, rfl⟩

theorem Affinity.reads : Reads (Affinity.ofDatum dialect) Affinity.toDatum := by
  intro a d hd
  obtain ⟨p, hparts, hp⟩ := Shape.exists_parts (by simp) hd
  have hparam := hp.required "param" rfl (Shape.reads_text a.param)
  have hsource := hp.withDefault "source" rfl (AffinitySource.reads dialect a.source) .cookie
  simp only [Affinity.ofDatum, hparts, hparam, hsource, bind, Except.bind, pure, Except.pure]

theorem Balancing.reads : Reads (Balancing.ofDatum dialect) Balancing.toDatum := by
  intro b d hd
  obtain ⟨p, hparts, hp⟩ := Shape.exists_parts (by simp) hd
  have hround := hp.withDefault "round_robin" rfl (Shape.reads_bool b.roundRobin) true
  have hfailover := hp.withDefault "failover" rfl (Shape.reads_bool b.failover) true
  have hattempts := hp.withDefault "max_attempts" rfl
    (Shape.reads_uint32.optional (by simp [Datum.nat]) b.maxAttempts) none
  have hsticky := hp.withDefault "sticky" rfl
    ((Affinity.reads dialect).optional (by simp [Affinity.toDatum]) b.sticky) none
  simp only [Balancing.ofDatum, hparts, hround, hfailover, hattempts, hsticky, bind, Except.bind,
    pure, Except.pure]

theorem ThrottlePolicy.reads : Reads (ThrottlePolicy.ofDatum dialect) ThrottlePolicy.toDatum := by
  intro t d hd
  obtain ⟨p, hparts, hp⟩ := Shape.exists_parts (by simp) hd
  have hglobal := hp.withDefault "global_enabled" rfl (Shape.reads_bool t.globalEnabled) false
  have hlimit := hp.required "limit" rfl (Shape.reads_int64 t.limit)
  have hwindow := hp.required "window_ms" rfl (Shape.reads_int64 t.windowMs)
  have hpolicy := hp.withDefault "policy_ref" rfl
    (Shape.reads_text.optional (by simp) t.policyRef) none
  simp only [ThrottlePolicy.ofDatum, hparts, hglobal, hlimit, hwindow, hpolicy, bind, Except.bind,
    pure, Except.pure]

theorem ServiceConfig.reads : Reads (ServiceConfig.ofDatum dialect) ServiceConfig.toDatum := by
  intro s d hd
  obtain ⟨p, hparts, hp⟩ := Shape.exists_parts (by simp) hd
  have hid := hp.required "id" rfl (Shape.reads_text s.id)
  have hhost := hp.optional "host" rfl (Shape.reads_text.optional (by simp) s.host)
  have hprefix := hp.optional "path_prefix" rfl
    (Shape.reads_text.optional (by simp) s.pathPrefix)
  have hpriority := hp.withDefault "priority" rfl (Shape.reads_uint32 s.priority) 0
  have hstrips := hp.withDefault "strip_prefix" rfl (Shape.reads_bool s.stripsPath) false
  have hnodes := hp.required "nodes" rfl ((Node.reads dialect).list s.nodes)
  have hbalancing := hp.withDefault "load_balancing" rfl (Balancing.reads dialect s.balancing) {}
  have hthrottle := hp.withDefault "throttle" rfl
    ((ThrottlePolicy.reads dialect).optional (by simp [ThrottlePolicy.toDatum]) s.throttle) none
  simp only [ServiceConfig.ofDatum, hparts, hid, hhost, hprefix, hpriority, hstrips, hnodes,
    hbalancing, hthrottle, bind, Except.bind, pure, Except.pure]

theorem ListenerConfig.reads : Reads (ListenerConfig.ofDatum dialect) ListenerConfig.toDatum := by
  intro l d hd
  obtain ⟨p, hparts, hp⟩ := Shape.exists_parts (by simp) hd
  have hbind := hp.withDefault "bind_address" rfl (Shape.reads_text l.bindAddress) "0.0.0.0:8080"
  have hmost := hp.withDefault "max_connections" rfl (Shape.reads_uint64 l.maxConnections) 10000
  simp only [ListenerConfig.ofDatum, hparts, hbind, hmost, bind, Except.bind, pure, Except.pure]

theorem TimeoutConfig.reads : Reads (TimeoutConfig.ofDatum dialect) TimeoutConfig.toDatum := by
  intro t d hd
  obtain ⟨p, hparts, hp⟩ := Shape.exists_parts (by simp) hd
  have hconnect := hp.withDefault "connect_secs" rfl (Shape.reads_uint64 t.connectSecs) 5
  have hrequest := hp.withDefault "request_secs" rfl (Shape.reads_uint64 t.requestSecs) 30
  simp only [TimeoutConfig.ofDatum, hparts, hconnect, hrequest, bind, Except.bind, pure,
    Except.pure]

theorem SecurityConfig.reads : Reads (SecurityConfig.ofDatum dialect) SecurityConfig.toDatum := by
  intro s d hd
  obtain ⟨p, hparts, hp⟩ := Shape.exists_parts (by simp) hd
  have hbody := hp.withDefault "max_body_size" rfl (Shape.reads_uint64 s.maxBodySize) 2097152
  simp only [SecurityConfig.ofDatum, hparts, hbody, bind, Except.bind, pure, Except.pure]

theorem LogFormat.reads : Reads (LogFormat.ofDatum dialect) LogFormat.toDatum :=
  Reads.oneOf fun a => by cases a <;> exact ⟨_, rfl, rfl⟩

theorem ObservabilityConfig.reads :
    Reads (ObservabilityConfig.ofDatum dialect) ObservabilityConfig.toDatum := by
  intro o d hd
  obtain ⟨p, hparts, hp⟩ := Shape.exists_parts (by simp) hd
  have hlevel := hp.withDefault "log_level" rfl (Shape.reads_text o.logLevel) "info"
  have hformat := hp.withDefault "log_format" rfl (LogFormat.reads dialect o.logFormat) .pretty
  have henabled := hp.withDefault "metrics_enabled" rfl (Shape.reads_bool o.metricsEnabled) true
  have haddress := hp.withDefault "metrics_address" rfl (Shape.reads_text o.metricsAddress)
    "0.0.0.0:9090"
  simp only [ObservabilityConfig.ofDatum, hparts, hlevel, hformat, henabled, haddress, bind,
    Except.bind, pure, Except.pure]

theorem SessionConfig.reads : Reads (SessionConfig.ofDatum dialect) SessionConfig.toDatum := by
  intro s d hd
  obtain ⟨p, hparts, hp⟩ := Shape.exists_parts (by simp) hd
  have httl := hp.withDefault "ttl_secs" rfl (Shape.reads_uint64 s.ttlSecs) 1800
  have hpurge := hp.withDefault "purge_interval_secs" rfl
    (Shape.reads_uint64 s.purgeIntervalSecs) 60
  simp only [SessionConfig.ofDatum, hparts, httl, hpurge, bind, Except.bind, pure, Except.pure]

theorem EventSinkKind.reads : Reads (EventSinkKind.ofDatum dialect) EventSinkKind.toDatum :=
  Reads.oneOf fun a => by cases a <;> exact ⟨_, rfl, rfl⟩

theorem EventSinkConfig.reads :
    Reads (EventSinkConfig.ofDatum dialect) EventSinkConfig.toDatum := by
  intro e d hd
  obtain ⟨p, hparts, hp⟩ := Shape.exists_parts (by simp) hd
  have hkind := hp.withDefault "kind" rfl (EventSinkKind.reads dialect e.kind) .none
  have hendpoint := hp.withDefault "endpoint" rfl
    (Shape.reads_text.optional (by simp) e.endpoint) none
  have htopic := hp.withDefault "topic" rfl (Shape.reads_text e.topic) "gateway.admission"
  have hcapacity := hp.withDefault "buffer_capacity" rfl (Shape.reads_uint64 e.bufferCapacity)
    1024
  simp only [EventSinkConfig.ofDatum, hparts, hkind, hendpoint, htopic, hcapacity, bind,
    Except.bind, pure, Except.pure]

theorem ThrottleConfig.reads : Reads (ThrottleConfig.ofDatum dialect) ThrottleConfig.toDatum := by
  intro t d hd
  obtain ⟨p, hparts, hp⟩ := Shape.exists_parts (by simp) hd
  have hconsumer := hp.withDefault "consumer_header" rfl (Shape.reads_text t.consumerHeader)
    "x-consumer-id"
  have hurl := hp.withDefault "oracle_url" rfl (Shape.reads_text.optional (by simp) t.oracleUrl)
    none
  have htimeout := hp.withDefault "oracle_timeout_ms" rfl (Shape.reads_uint64 t.oracleTimeoutMs)
    250
  have hevents := hp.withDefault "events" rfl (EventSinkConfig.reads dialect t.events) {}
  simp only [ThrottleConfig.ofDatum, hparts, hconsumer, hurl, htimeout, hevents, bind, Except.bind,
    pure, Except.pure]

/-- A configuration is read back, whatever the order of its fields. -/
theorem Config.reads : Reads (Config.ofDatum dialect) Config.toDatum := by
  intro c d hd
  obtain ⟨p, hparts, hp⟩ := Shape.exists_parts (by simp) hd
  have hlistener := hp.withDefault "listener" rfl (ListenerConfig.reads dialect c.listener) {}
  have htimeouts := hp.withDefault "timeouts" rfl (TimeoutConfig.reads dialect c.timeouts) {}
  have hsecurity := hp.withDefault "security" rfl (SecurityConfig.reads dialect c.security) {}
  have hobservability := hp.withDefault "observability" rfl
    (ObservabilityConfig.reads dialect c.observability) {}
  have hsessions := hp.withDefault "sessions" rfl (SessionConfig.reads dialect c.sessions) {}
  have hthrottle := hp.withDefault "throttle" rfl (ThrottleConfig.reads dialect c.throttle) {}
  have hservices := hp.withDefault "services" rfl ((ServiceConfig.reads dialect).list c.services)
    []
  simp only [Config.ofDatum, hparts, hlistener, htimeouts, hsecurity, hobservability, hsessions,
    hthrottle, hservices, bind, Except.bind, pure, Except.pure]

end

/-! ### Identifiers -/

namespace Uuid

/-- Groups of digits that stand between hyphens are found in their places. -/
theorem unhyphenate?_groups {a b c d e : List Char} (ha : a.length = 8) (hb : b.length = 4)
    (hc : c.length = 4) (hd : d.length = 4) (he : e.length = 12) :
    unhyphenate? (a ++ '-' :: (b ++ '-' :: (c ++ '-' :: (d ++ '-' :: e)))) =
      some (a ++ b ++ c ++ d ++ e) := by
  rw [unhyphenate?, if_pos (by simp [ha, hb, hc, hd, he])]
  simp [List.drop_append, List.drop_eq_nil_of_le, ha, hb, hc, hd]

theorem length_hyphenate {cs : List Char} (h : cs.length = 32) : (hyphenate cs).length = 36 := by
  simp [hyphenate, h]

theorem unhyphenate?_hyphenate {cs : List Char} (h : cs.length = 32) :
    unhyphenate? (hyphenate cs) = some cs := by
  have hjoin (n m : Nat) : (cs.drop n).take m ++ cs.drop (n + m) = cs.drop n := by
    rw [← List.drop_drop, List.take_append_drop]
  rw [hyphenate, unhyphenate?_groups (by simp [h]) (by simp [h]) (by simp [h]) (by simp [h])
    (by simp [h]), List.append_assoc, List.append_assoc, List.append_assoc, hjoin 16 4, hjoin 12 4,
    hjoin 8 4, List.take_append_drop]

theorem read?_text (u : Uuid) : read? u.text = some u := by
  have hlen : u.chars.length = 32 := by rw [chars, List.length_map, u.length_digits]
  have htext : u.text.toList = hyphenate u.chars := String.toList_ofList
  rw [read?]
  simp only [htext, length_hyphenate hlen, unhyphenate?_hyphenate hlen]
  exact ofDigits?_digits u

end Uuid

/-! ### Events, counters, records and verdicts -/

namespace AdmissionEvent

theorem reads_uuid : Reads uuidOfDatum fun u => .text u.text := by
  rintro u d ⟨⟩
  rw [uuidOfDatum, Uuid.read?_text]

theorem field?_consumerField (consumer : Option String) (name : String) :
    Datum.field? name (consumerField consumer) =
      if name = "consumer_key" then consumer.map .text else none := by
  cases consumer with
  | none => simp [consumerField, Datum.field?]
  | some c => simp [consumerField, Datum.field?, eq_comm]

/-- The fields of an event: that of the consumer if there is one, and all the others. -/
theorem field?_written (e : AdmissionEvent) (name : String) :
    Datum.field? name (("event_id", .text e.eventId.text) :: e.details) =
      if name = "consumer_key" then e.consumerKey.map .text
      else Datum.field? name [("event_id", .text e.eventId.text), ("service_id", .text e.serviceId),
        ("allowed", .bool e.allowed), ("count", .int e.count.toInt), ("limit", .int e.limit.toInt),
        ("window_start_ms", .int e.windowStartMs.toInt),
        ("timestamp_ms", .int e.timestampMs.toInt)] := by
  have hparts : ("event_id", .text e.eventId.text) :: e.details =
      [("event_id", .text e.eventId.text), ("service_id", .text e.serviceId)] ++
        (consumerField e.consumerKey ++ [("allowed", .bool e.allowed),
          ("count", .int e.count.toInt), ("limit", .int e.limit.toInt),
          ("window_start_ms", .int e.windowStartMs.toInt),
          ("timestamp_ms", .int e.timestampMs.toInt)]) := rfl
  rw [hparts, Datum.field?_append, Datum.field?_append, field?_consumerField]
  by_cases hname : name = "consumer_key"
  · subst hname
    rw [if_pos rfl, if_pos rfl]
    cases e.consumerKey <;> rfl
  · rw [if_neg hname, if_neg hname, Option.none_or, ← Datum.field?_append]
    rfl

theorem nodup_written (e : AdmissionEvent) :
    ((("event_id", .text e.eventId.text) :: e.details).map Prod.fst).Nodup := by
  rw [details]
  cases e.consumerKey <;> simp [consumerField]

theorem optional_consumer {e : AdmissionEvent} {p : Shape.Parts}
    (hp : p.Shows (("event_id", .text e.eventId.text) :: e.details)) :
    p.optional "consumer_key" Shape.text = .ok e.consumerKey := by
  have hfield := e.field?_written "consumer_key"
  cases hconsumer : e.consumerKey with
  | none =>
    rw [hconsumer] at hfield
    exact hp.optional_eq_none "consumer_key" hfield Shape.text
  | some c =>
    rw [hconsumer] at hfield
    exact hp.optional "consumer_key" hfield (Shape.reads_text.optional (by simp) (some c))

/-- An event is read back, whether or not it names a consumer. -/
theorem reads : Reads ofDatum toDatum := by
  intro e d hd
  obtain ⟨p, hparts, hp⟩ := Shape.exists_parts e.nodup_written hd
  have hid := hp.required "event_id" (e.field?_written "event_id") (reads_uuid e.eventId)
  have hservice := hp.required "service_id" (e.field?_written "service_id")
    (Shape.reads_text e.serviceId)
  have hconsumer := optional_consumer hp
  have hallowed := hp.required "allowed" (e.field?_written "allowed") (Shape.reads_bool e.allowed)
  have hcount := hp.required "count" (e.field?_written "count") (Shape.reads_int64 e.count)
  have hlimit := hp.required "limit" (e.field?_written "limit") (Shape.reads_int64 e.limit)
  have hstart := hp.required "window_start_ms" (e.field?_written "window_start_ms")
    (Shape.reads_int64 e.windowStartMs)
  have htimestamp := hp.required "timestamp_ms" (e.field?_written "timestamp_ms")
    (Shape.reads_int64 e.timestampMs)
  simp only [ofDatum, hparts, hid, hservice, hconsumer, hallowed, hcount, hlimit, hstart,
    htimestamp, bind, Except.bind, pure, Except.pure]

end AdmissionEvent

theorem ThrottleCounter.reads : Reads ThrottleCounter.ofDatum ThrottleCounter.toDatum := by
  intro c d hd
  obtain ⟨p, hparts, hp⟩ := Shape.exists_parts (by simp) hd
  have hkey := hp.required "key" rfl (Shape.reads_text c.key)
  have hconsumer := hp.optional "consumer_key" rfl
    (Shape.reads_text.optional (by simp) c.consumerKey)
  have hlimit := hp.required "limit" rfl (Shape.reads_int64 c.limit)
  have hwindow := hp.required "window_duration_ms" rfl (Shape.reads_int64 c.windowDurationMs)
  have hstart := hp.required "window_start_ms" rfl (Shape.reads_int64 c.windowStartMs)
  have hcount := hp.required "count" rfl (Shape.reads_int64 c.count)
  simp only [ThrottleCounter.ofDatum, hparts, hkey, hconsumer, hlimit, hwindow, hstart, hcount,
    bind, Except.bind, pure, Except.pure]

theorem SessionRecord.ofDatum_of_alike {r : SessionRecord} (h : r.nodeIndex < UInt64.size)
    {d : Datum} (hd : Alike d r.toDatum) : SessionRecord.ofDatum d = .ok r := by
  obtain ⟨p, hparts, hp⟩ := Shape.exists_parts (by simp) hd
  have hkey := hp.required "session_key" rfl (Shape.reads_text r.sessionKey)
  have hindex := hp.required "node_index" rfl
    fun _ => Shape.reads_natTo (Nat.le_sub_one_of_lt h)
  have hvalue := hp.required "value" rfl (Shape.reads_text r.value)
  simp only [SessionRecord.ofDatum, hparts, hkey, hindex, hvalue, bind, Except.bind, pure,
    Except.pure]

theorem Verdict.reads : Reads Verdict.ofDatum Verdict.toDatum := by
  intro v d hd
  obtain ⟨p, hparts, hp⟩ := Shape.exists_parts (by simp) hd
  have hallowed := hp.required "allowed" rfl (Shape.reads_bool v.allowed)
  have hlimit := hp.withDefault "limit" rfl (Shape.reads_int64.optional (by simp) v.limit) none
  have hwindow := hp.withDefault "window_duration_ms" rfl
    (Shape.reads_int64.optional (by simp) v.windowDurationMs) none
  simp only [Verdict.ofDatum, hparts, hallowed, hlimit, hwindow, bind, Except.bind, pure,
    Except.pure]

/-! ### All together -/

/-- A configuration with its defaults resolved: what is read, if it keeps every rule, is written
again. -/
def Config.normal? (d : Datum) : Option Datum :=
  match ofDatum .json d with
  | .error _ => none
  | .ok c =>
    match c.validated with
    | .error _ => none
    | .ok c => some c.toDatum

theorem Config.normal?_eq_some_iff {d e : Datum} : Config.normal? d = some e ↔
    ∃ c : Config, Config.ofDatum .json d = .ok c ∧ c.WellFormed ∧ c.toDatum = e := by
  rw [normal?]
  cases hd : ofDatum .json d with
  | error => simp
  | ok c =>
    cases hc : c.validated with
    | error vs =>
      have hnot := (validated_eq_error_iff.mp hc).1
      simp [hnot, hc]
    | ok c' =>
      obtain ⟨rfl, hwell⟩ := validated_eq_ok_iff.mp hc
      simp [hwell, hc]

/-- **What is written is read back.** Whatever is written of a configuration, of an event, of a
counter, of a session record whose position fits 64 bits, or of a verdict, is read as just that, in
whatever order the fields come; and of an event the consumer is written only if there is one. So a
configuration with its defaults resolved stays as it is when they are resolved again. -/
theorem written_read_back :
    (∀ (c : Config) (d : Datum), d.Alike c.toDatum → Config.ofDatum .json d = .ok c) ∧
    (∀ e : AdmissionEvent, (∀ d : Datum, d.Alike e.toDatum → AdmissionEvent.ofDatum d = .ok e) ∧
      ∃ fields, e.toDatum = .record fields ∧
        Datum.field? "consumer_key" fields = e.consumerKey.map .text) ∧
    (∀ (c : ThrottleCounter) (d : Datum), d.Alike c.toDatum →
      ThrottleCounter.ofDatum d = .ok c) ∧
    (∀ r : SessionRecord, r.nodeIndex < UInt64.size → ∀ d : Datum, d.Alike r.toDatum →
      SessionRecord.ofDatum d = .ok r) ∧
    (∀ (v : Verdict) (d : Datum), d.Alike v.toDatum → Verdict.ofDatum d = .ok v) ∧
    ∀ d e, Config.normal? d = some e → ∀ d' : Datum, d'.Alike e → Config.normal? d' = some e := by
  refine ⟨Config.reads .json, fun e => ⟨AdmissionEvent.reads e, _, rfl, ?_⟩, ThrottleCounter.reads,
    fun r hr d => SessionRecord.ofDatum_of_alike hr, Verdict.reads, fun d e he d' hd' => ?_⟩
  · exact e.field?_written "consumer_key"
  · obtain ⟨c, -, hwell, rfl⟩ := Config.normal?_eq_some_iff.mp he
    exact Config.normal?_eq_some_iff.mpr ⟨c, Config.reads .json c d' hd', hwell, rfl⟩

namespace WrittenSample

/-- A record with its fields in the opposite order. -/
def reversed : Datum → Datum
  | .record fields => .record fields.reverse
  | d => d

theorem alike_reversed : ∀ d, (reversed d).Alike d
  | .record fields => .record fields.reverse_perm (.of_refl .refl fields)
  | .null | .bool _ | .int _ | .real _ | .text _ | .moment _ | .list _ => .refl _

/-- Numbers at the ends of their ranges, and values that are set and unset. -/
def config : Config :=
  { listener := { maxConnections := UInt64.ofNat (UInt64.size - 1) }
    observability := { logFormat := .json }
    throttle := { events := { kind := .http, endpoint := some "null" } }
    services :=
      [{ id := "orders", pathPrefix := some "", nodes := [.plain "h" 65535],
         balancing := { maxAttempts := some 0, sticky := some { param := "", source := .query } }
         throttle := some { limit := Int64.minValue, windowMs := Int64.maxValue } }] }

def event : AdmissionEvent :=
  { eventId := .zero, serviceId := "orders", consumerKey := none, allowed := false,
    count := Int64.minValue, limit := -1, windowStartMs := 0, timestampMs := Int64.maxValue }

def counter : ThrottleCounter :=
  { key := "orders:c", consumerKey := some "c", limit := 0, windowDurationMs := -1,
    windowStartMs := Int64.minValue, count := Int64.maxValue }

def record : SessionRecord :=
  { sessionKey := "aff=A", nodeIndex := UInt64.size - 1, value := "" }

def verdict : Verdict := { allowed := true, windowDurationMs := some Int64.minValue }

/-- A service as a list of its fields, with most of them left out. -/
def brief : Datum :=
  .record [("services", .list [.record [("nodes", .list [.list [.text "h", .int 80]]),
    ("id", .text "orders"), ("unknown", .null)]])]

/-- What it says with all defaults. -/
def full : Config := { services := [{ id := "orders", nodes := [.plain "h" 80] }] }

end WrittenSample

open WrittenSample in
theorem reversed_read_back :
    Config.ofDatum .json (reversed config.toDatum) = .ok config ∧
    AdmissionEvent.ofDatum (reversed event.toDatum) = .ok event ∧
    ThrottleCounter.ofDatum (reversed counter.toDatum) = .ok counter ∧
    record.nodeIndex < UInt64.size ∧ SessionRecord.ofDatum (reversed record.toDatum) = .ok record ∧
    Verdict.ofDatum (reversed verdict.toDatum) = .ok verdict ∧
    Config.normal? brief = some full.toDatum ∧
    Config.normal? (reversed full.toDatum) = some full.toDatum := by
  obtain ⟨hconfig, hevent, hcounter, hrecord, hverdict, hnormal⟩ := written_read_back
  have hindex : record.nodeIndex < UInt64.size := by decide
  have hbrief : Config.normal? brief = some full.toDatum := rfl
  exact ⟨hconfig _ _ (alike_reversed _), (hevent _).1 _ (alike_reversed _),
    hcounter _ _ (alike_reversed _), hindex, hrecord _ hindex _ (alike_reversed _),
    hverdict _ _ (alike_reversed _), hbrief, hnormal _ _ hbrief _ (alike_reversed _)⟩

end Gatehouse
