import Gatehouse.Config.Violation
import Gatehouse.Proofs.Texts
import Mathlib.Data.List.Nodup

/-!
# The rules of a configuration, and what is reported of them

A configuration is accepted if it keeps every rule. This file says what the rules are without the
walk that checks them, and that the walk finds exactly those that a configuration breaks.

## Reports

The report of a service depends on the service, on whether there is an oracle, and on the services
before it, of which only the names matter. So no fault of one service can hide one of another, and a
report can be stated by its members: it has one entry for every broken rule, in the order of the
rules, and one for every unsound node, in the order of the nodes. There is only one such list.

The walk does not keep the services before, but those of their names that are acceptable. That is
enough, because only an acceptable name is ever looked for among them.

## Main definitions

* `ServiceConfig.Breaks`, `EventSinkConfig.Breaks` — the rules, as the violations of each; those
  about the parts of a service are `BreaksName`, `BreaksNodes`, `Balancing.Breaks` and
  `ThrottlePolicy.Breaks`
* `Lists` — a list of exactly the rules broken, in their order
* `Config.Reports` — the report of each service after the other, and that of event delivery
* `Config.WellFormed` — what is accepted

## Main results

* `Lists.unique`, `Config.Reports.unique` — there is one report
* `ServiceConfig.not_breaks_iff`, `Config.violations_eq_nil_iff` — nothing broken is well-formed
* `exists_reports_serviceViolations`, `Config.reports_violations` — the walk makes the report
-/

namespace Gatehouse

/-! ### Rules -/

/-- There is nothing but blanks in a text. -/
def Blank (s : String) : Prop := ∀ c ∈ s.toList, Text.isBlank c = true

/-- The fault of a node: that of its host, else of its port, else of its scheme. -/
inductive Node.Faulty (n : Node) : NodeFault → Prop where
  | host (h : Blank n.host) : n.Faulty .emptyHost
  | port (hhost : ¬ Blank n.host) (h : n.port = 0) : n.Faulty .zeroPort
  | scheme (hhost : ¬ Blank n.host) (hport : n.port ≠ 0) (h : n.scheme ≠ "http") :
    n.Faulty (.unsupportedScheme n.scheme)

/-- The rules about the name of a service after the services `earlier`. A name is held against
theirs only if it is acceptable by itself. -/
@[mk_iff]
inductive BreaksName (earlier : List ServiceConfig) (id : String) : Violation → Prop where
  | blank (h : Blank id) : BreaksName earlier id .emptyServiceId
  | colon (hblank : ¬ Blank id) (h : ':' ∈ id.toList) : BreaksName earlier id (.invalidServiceId id)
  | repeated (hblank : ¬ Blank id) (hcolon : ':' ∉ id.toList) (h : ∃ e ∈ earlier, e.id = id) :
    BreaksName earlier id (.duplicateService id)

/-- The rules about the nodes of a service. -/
@[mk_iff]
inductive BreaksNodes (service : String) (nodes : List Node) : Violation → Prop where
  | absent (h : nodes = []) : BreaksNodes service nodes (.noNodes service)
  | faulty {i : Nat} {n : Node} {f : NodeFault} (hn : nodes[i]? = some n) (h : n.Faulty f) :
    BreaksNodes service nodes (.invalidNode service i f)

/-- The rules about the spreading of a service's requests. -/
@[mk_iff]
inductive Balancing.Breaks (b : Balancing) (service : String) : Violation → Prop where
  | param {a : Affinity} (ha : b.sticky = some a) (h : Blank a.param) :
    b.Breaks service (.missingStickyParam service)
  | attempts (h : b.maxAttempts = some 0) : b.Breaks service (.zeroAttempts service)

/-- The rules about the throttle policy of a service, given the oracle that there is. -/
@[mk_iff]
inductive ThrottlePolicy.Breaks (t : ThrottlePolicy) (service : String) (oracle : Option String) :
    Violation → Prop where
  | limit (h : t.limit ≤ 0) : t.Breaks service oracle (.invalidThrottle service (.limit t.limit))
  | window (h : t.windowMs ≤ 0) :
    t.Breaks service oracle (.invalidThrottle service (.window t.windowMs))
  | oracle (href : t.policyRef ≠ none) (h : oracle = none) :
    t.Breaks service oracle (.missingOracle service)

/-- The rules that a service breaks after the services `earlier`, given the oracle that there is. -/
@[mk_iff]
inductive ServiceConfig.Breaks (oracle : Option String) (earlier : List ServiceConfig)
    (s : ServiceConfig) : Violation → Prop where
  | name {v : Violation} (h : BreaksName earlier s.id v) : s.Breaks oracle earlier v
  | nodes {v : Violation} (h : BreaksNodes s.id s.nodes v) : s.Breaks oracle earlier v
  | balancing {v : Violation} (h : s.balancing.Breaks s.id v) : s.Breaks oracle earlier v
  | throttle {t : ThrottlePolicy} {v : Violation} (ht : s.throttle = some t)
    (h : t.Breaks s.id oracle v) : s.Breaks oracle earlier v

/-- The rules that event delivery breaks. -/
@[mk_iff]
inductive EventSinkConfig.Breaks (e : EventSinkConfig) : Violation → Prop where
  | noEndpoint (hkind : e.kind = .http) (h : e.endpoint = none) :
    e.Breaks (.invalidEventSink .noEndpoint)
  | noCapacity (hkind : e.kind ≠ .none) (h : e.bufferCapacity = 0) :
    e.Breaks (.invalidEventSink .noCapacity)

/-! ### What is accepted -/

/-- A node that can be asked. -/
structure Node.Sound (n : Node) : Prop where
  host : ¬ Blank n.host
  port : n.port ≠ 0
  scheme : n.scheme = "http"

/-- A service that keeps every rule that is about it alone. -/
structure ServiceConfig.WellFormed (oracle : Option String) (s : ServiceConfig) : Prop where
  name_notBlank : ¬ Blank s.id
  name_noColon : ':' ∉ s.id.toList
  nodes_nonempty : s.nodes ≠ []
  nodes_sound : ∀ n ∈ s.nodes, n.Sound
  param_notBlank : ∀ a, s.balancing.sticky = some a → ¬ Blank a.param
  attempts : s.balancing.maxAttempts ≠ some 0
  limit_pos : ∀ t, s.throttle = some t → 0 < t.limit
  window_pos : ∀ t, s.throttle = some t → 0 < t.windowMs
  oracle : ∀ t, s.throttle = some t → t.policyRef ≠ none → oracle ≠ none

/-- A configuration that keeps every rule. -/
structure Config.WellFormed (c : Config) : Prop where
  services : ∀ s ∈ c.services, s.WellFormed c.throttle.oracleUrl
  names_nodup : (c.services.map (·.id)).Nodup
  endpoint : c.throttle.events.kind = .http → c.throttle.events.endpoint ≠ none
  capacity : c.throttle.events.kind ≠ .none → 1 ≤ c.throttle.events.bufferCapacity

/-! ### Lists of broken rules -/

namespace Violation

/-- The place of the rule among the rules. Those about a name exclude each other. -/
def rule : Violation → Nat
  | .emptyServiceId => 0
  | .invalidServiceId _ => 0
  | .duplicateService _ => 0
  | .noNodes _ => 1
  | .invalidNode _ _ _ => 2
  | .missingStickyParam _ => 3
  | .zeroAttempts _ => 4
  | .invalidThrottle _ (.limit _) => 5
  | .invalidThrottle _ (.window _) => 6
  | .missingOracle _ => 7
  | .invalidEventSink .noEndpoint => 8
  | .invalidEventSink .noCapacity => 9

/-- The position of the node that a violation is about. -/
def position : Violation → Nat
  | .invalidNode _ i _ => i
  | _ => 0

/-- The order of a report: by rules, and for the same rule by nodes. -/
def Precedes (v w : Violation) : Prop :=
  v.rule < w.rule ∨ (v.rule = w.rule ∧ v.position < w.position)

instance : Std.Irrefl Precedes where
  irrefl v h := by
    unfold Precedes at h
    omega

theorem Precedes.asymm {v w : Violation} (h : v.Precedes w) : ¬ w.Precedes v := by
  unfold Precedes at *
  omega

end Violation

/-- A list of exactly the violations `broken`, each of them once, in their order. -/
structure Lists (vs : List Violation) (broken : Violation → Prop) : Prop where
  mem_iff : ∀ v, v ∈ vs ↔ broken v
  ordered : vs.Pairwise Violation.Precedes

namespace Lists

variable {vs ws : List Violation} {p q : Violation → Prop}

theorem unique (hv : Lists vs p) (hw : Lists ws p) : vs = ws := by
  have hperm : vs.Perm ws := (List.perm_ext_iff_of_nodup hv.ordered.nodup hw.ordered.nodup).mpr
    fun v => (hv.mem_iff v).trans (hw.mem_iff v).symm
  exact hperm.eq_of_pairwise (fun _ _ _ _ h h' => absurd h' h.asymm) hv.ordered hw.ordered

theorem congr (hv : Lists vs p) (h : ∀ v, p v ↔ q v) : Lists vs q :=
  ⟨fun v => (hv.mem_iff v).trans (h v), hv.ordered⟩

theorem append (hv : Lists vs p) (hw : Lists ws q) (h : ∀ v w, p v → q w → v.Precedes w) :
    Lists (vs ++ ws) fun v => p v ∨ q v where
  mem_iff v := by rw [List.mem_append, hv.mem_iff, hw.mem_iff]
  ordered := List.pairwise_append.mpr ⟨hv.ordered, hw.ordered, fun v hmem w hmem' =>
    h v w ((hv.mem_iff v).mp hmem) ((hw.mem_iff w).mp hmem')⟩

/-- What is listed for earlier rules stands before what is listed for later ones. -/
theorem append_rules (k : Nat) (hv : Lists vs p) (hw : Lists ws q) (hp : ∀ v, p v → v.rule < k)
    (hq : ∀ v, q v → k ≤ v.rule) : Lists (vs ++ ws) fun v => p v ∨ q v :=
  hv.append hw fun v w h h' => .inl (Nat.lt_of_lt_of_le (hp v h) (hq w h'))

theorem nil (h : ∀ v, ¬ p v) : Lists [] p :=
  ⟨fun v => by simpa using h v, .nil⟩

theorem toList (o : Option Violation) : Lists o.toList (o = some ·) := by
  cases o with
  | none => exact nil (by simp)
  | some v => exact ⟨by simp [eq_comm], List.pairwise_singleton _ v⟩

theorem eq_nil_iff (hv : Lists vs p) : vs = [] ↔ ∀ v, ¬ p v := by
  rw [List.eq_nil_iff_forall_not_mem]
  exact forall_congr' fun v => not_congr (hv.mem_iff v)

end Lists

/-! ### The parts of a report -/

theorem isBlankText_iff {s : String} : isBlankText s = true ↔ Blank s := by
  rw [isBlankText, beq_iff_eq, Text.trim, ← String.toList_inj, String.toList_ofList,
    String.toList_empty, Text.trimWhere_eq_nil_iff, Blank]

instance (s : String) : Decidable (Blank s) := decidable_of_iff _ isBlankText_iff

theorem acceptableId_iff {id : String} :
    acceptableId id = true ↔ ¬ Blank id ∧ ':' ∉ id.toList := by
  simp [acceptableId, ← isBlankText_iff]

namespace Node

variable {n : Node} {f : NodeFault}

theorem fault?_eq_some_iff : n.fault? = some f ↔ n.Faulty f := by
  constructor
  · intro h
    simp only [fault?, isBlankText_iff] at h
    split_ifs at h with hhost hport hscheme
    · exact Option.some.inj h ▸ .host hhost
    · exact Option.some.inj h ▸ .port hhost hport
    · exact Option.some.inj h ▸ .scheme hhost hport hscheme
  · rintro (h | ⟨hhost, h⟩ | ⟨hhost, hport, h⟩)
    · simp [fault?, isBlankText_iff, h]
    · simp [fault?, isBlankText_iff, hhost, h]
    · simp [fault?, isBlankText_iff, hhost, hport, h]

theorem sound_iff : n.Sound ↔ ∀ f, ¬ n.Faulty f := by
  constructor
  · rintro hn f (h | ⟨-, h⟩ | ⟨-, -, h⟩)
    · exact hn.host h
    · exact hn.port h
    · exact h hn.scheme
  · intro h
    have hhost : ¬ Blank n.host := fun hh => h _ (.host hh)
    have hport : n.port ≠ 0 := fun hp => h _ (.port hhost hp)
    exact ⟨hhost, hport, by_contra fun hs => h _ (.scheme hhost hport hs)⟩

end Node

/-- Of the names before, those that are acceptable are enough. -/
theorem lists_idViolations {names : List String} {earlier : List ServiceConfig} {id : String}
    (hnames : acceptableId id = true → (id ∈ names ↔ ∃ e ∈ earlier, e.id = id)) :
    Lists (idViolations names id) (BreaksName earlier id) := by
  simp only [idViolations, isBlankText_iff, List.contains_iff_mem]
  by_cases hblank : Blank id
  · exact ⟨by simp [breaksName_iff, hblank], by simp [hblank]⟩
  by_cases hcolon : ':' ∈ id.toList
  · exact ⟨by simp [breaksName_iff, hblank, hcolon], by simp [hblank, hcolon]⟩
  have hmem := hnames (acceptableId_iff.mpr ⟨hblank, hcolon⟩)
  constructor
  · simp [breaksName_iff, hblank, hcolon, hmem]
  · split_ifs <;> simp

theorem nodeViolations_cons (service : String) (k : Nat) (n : Node) (rest : List Node) :
    nodeViolations service k (n :: rest) =
      (n.fault?.map (.invalidNode service k)).toList ++ nodeViolations service (k + 1) rest := by
  rw [nodeViolations]
  cases n.fault? <;> rfl

theorem lists_nodeViolations (service : String) (k : Nat) (nodes : List Node) :
    Lists (nodeViolations service k nodes) fun v =>
      ∃ i n f, nodes[i]? = some n ∧ n.Faulty f ∧ v = .invalidNode service (k + i) f := by
  induction nodes generalizing k with
  | nil => exact Lists.nil (by simp)
  | cons n rest ih =>
    rw [nodeViolations_cons]
    refine ((Lists.toList _).append (ih (k + 1)) ?_).congr fun v => ?_
    · rintro v w hv ⟨i, m, f, -, -, rfl⟩
      obtain ⟨g, -, rfl⟩ := Option.map_eq_some_iff.mp hv
      exact .inr ⟨rfl, show k < k + 1 + i by omega⟩
    -- what stands at a position of the rest stands at the next one of the whole
    constructor
    · rintro (hv | ⟨i, m, f, hm, hf, rfl⟩)
      · obtain ⟨f, hf, rfl⟩ := Option.map_eq_some_iff.mp hv
        exact ⟨0, n, f, rfl, Node.fault?_eq_some_iff.mp hf, rfl⟩
      · exact ⟨i + 1, m, f, hm, hf, by rw [Nat.add_right_comm, Nat.add_assoc]⟩
    · rintro ⟨i, m, f, hm, hf, rfl⟩
      cases i with
      | zero =>
        obtain rfl := Option.some.inj hm
        exact .inl (Option.map_eq_some_iff.mpr ⟨f, Node.fault?_eq_some_iff.mpr hf, rfl⟩)
      | succ i => exact .inr ⟨i, m, f, hm, hf, by rw [Nat.add_right_comm, Nat.add_assoc]⟩

theorem lists_nodes (service : String) (nodes : List Node) :
    Lists ((if nodes = [] then [.noNodes service] else []) ++ nodeViolations service 0 nodes)
      (BreaksNodes service nodes) := by
  have habsent : Lists (if nodes = [] then [.noNodes service] else [])
      fun v => nodes = [] ∧ v = .noNodes service :=
    ⟨by simp, by split_ifs <;> simp⟩
  refine (habsent.append_rules 2 (lists_nodeViolations service 0 nodes) ?_ ?_).congr fun v => ?_
  · rintro v ⟨-, rfl⟩
    exact Nat.lt_succ_self 1
  · rintro v ⟨i, n, f, -, -, rfl⟩
    exact Nat.le_refl 2
  · simp [breaksNodes_iff]

theorem Balancing.lists_violations (b : Balancing) (service : String) :
    Lists (b.violations service) (b.Breaks service) := by
  constructor
  · intro v
    cases hb : b.sticky <;> simp [violations, breaks_iff, hb, isBlankText_iff]
  · cases hb : b.sticky <;> simp only [violations, hb] <;> split_ifs <;>
      simp [Violation.Precedes, Violation.rule]

theorem ThrottlePolicy.lists_violations (t : ThrottlePolicy) (service : String)
    (oracle : Option String) :
    Lists (t.violations service oracle.isSome) (t.Breaks service oracle) := by
  constructor
  · intro v
    have hsign (x : Int64) : x.toInt ≤ 0 ↔ x ≤ 0 := by
      rw [Int64.le_iff_toInt_le, Int64.toInt_zero]
    simp [violations, breaks_iff, hsign, Option.isSome_iff_ne_none, and_assoc]
  · simp only [violations]
    split_ifs <;> simp [Violation.Precedes, Violation.rule]

theorem EventSinkConfig.lists_violations (e : EventSinkConfig) : Lists e.violations e.Breaks := by
  constructor
  · intro v
    simp [violations, breaks_iff, and_assoc]
  · simp only [violations]
    split_ifs <;> simp [Violation.Precedes, Violation.rule]

/-! ### The report of a service -/

section

variable {oracle : Option String} {earlier : List ServiceConfig} {s : ServiceConfig}
  {v : Violation}

theorem BreaksName.rule_eq {id : String} (h : BreaksName earlier id v) : v.rule = 0 := by
  cases h <;> rfl

theorem BreaksNodes.rule_bounds {service : String} {nodes : List Node}
    (h : BreaksNodes service nodes v) : 1 ≤ v.rule ∧ v.rule ≤ 2 := by
  cases h <;> simp [Violation.rule]

theorem Balancing.Breaks.rule_bounds {b : Balancing} {service : String}
    (h : b.Breaks service v) : 3 ≤ v.rule ∧ v.rule ≤ 4 := by
  cases h <;> simp [Violation.rule]

theorem ThrottlePolicy.Breaks.rule_bounds {t : ThrottlePolicy} {service : String}
    (h : t.Breaks service oracle v) : 5 ≤ v.rule ∧ v.rule ≤ 7 := by
  cases h <;> simp [Violation.rule]

theorem ServiceConfig.violations_eq (hasOracle : Bool) (s : ServiceConfig) :
    s.violations hasOracle =
      ((if s.nodes = [] then [.noNodes s.id] else []) ++ nodeViolations s.id 0 s.nodes) ++
        (s.balancing.violations s.id ++
          s.throttle.elim [] fun t => t.violations s.id hasOracle) := by
  rw [violations, List.append_assoc _ (s.balancing.violations s.id)]
  cases s.throttle <;> rfl

/-- The report of a service stands for the services before, of which only the acceptable names are
kept. -/
theorem ServiceConfig.lists_report {names : List String}
    (hnames : acceptableId s.id = true → (s.id ∈ names ↔ ∃ e ∈ earlier, e.id = s.id)) :
    Lists (idViolations names s.id ++ s.violations oracle.isSome) (s.Breaks oracle earlier) := by
  have hnodes := lists_nodes s.id s.nodes
  have hbalancing := s.balancing.lists_violations s.id
  have hthrottle : Lists (s.throttle.elim [] fun t => t.violations s.id oracle.isSome)
      fun v => ∃ t, s.throttle = some t ∧ t.Breaks s.id oracle v := by
    cases s.throttle with
    | none => exact Lists.nil (by simp)
    | some t => exact (t.lists_violations s.id oracle).congr fun v => by simp
  rw [violations_eq]
  refine ((lists_idViolations hnames).append_rules 1 (hnodes.append_rules 3
    (hbalancing.append_rules 5 hthrottle ?_ ?_) ?_ ?_) ?_ ?_).congr fun v => ?_
  · exact fun v h => Nat.lt_succ_of_le h.rule_bounds.2
  · rintro v ⟨t, -, h⟩
    exact h.rule_bounds.1
  · exact fun v h => Nat.lt_succ_of_le h.rule_bounds.2
  · rintro v (h | ⟨t, -, h⟩)
    · exact h.rule_bounds.1
    · exact Nat.le_trans (by decide) h.rule_bounds.1
  · exact fun v h => Nat.lt_succ_of_le h.rule_eq.le
  · rintro v (h | h | ⟨t, -, h⟩)
    · exact h.rule_bounds.1
    · exact Nat.le_trans (by decide) h.rule_bounds.1
    · exact Nat.le_trans (by decide) h.rule_bounds.1
  · exact (breaks_iff oracle earlier s v).symm

/-- Nothing is reported of a service that is well-formed and has a name of its own. -/
theorem ServiceConfig.not_breaks_iff :
    (∀ v, ¬ s.Breaks oracle earlier v) ↔
      s.WellFormed oracle ∧ ∀ e ∈ earlier, e.id ≠ s.id := by
  constructor
  · intro h
    have hblank : ¬ Blank s.id := fun hb => h _ (.name (.blank hb))
    have hcolon : ':' ∉ s.id.toList := fun hc => h _ (.name (.colon hblank hc))
    refine ⟨⟨hblank, hcolon, fun hn => h _ (.nodes (.absent hn)), ?_, ?_, ?_, ?_, ?_, ?_⟩, ?_⟩
    · intro n hn
      obtain ⟨i, hi⟩ := List.mem_iff_getElem?.mp hn
      exact Node.sound_iff.mpr fun f hf => h _ (.nodes (.faulty hi hf))
    · exact fun a ha hb => h _ (.balancing (.param ha hb))
    · exact fun ha => h _ (.balancing (.attempts ha))
    · exact fun t ht => Int64.not_le.mp fun hl => h _ (.throttle ht (.limit hl))
    · exact fun t ht => Int64.not_le.mp fun hl => h _ (.throttle ht (.window hl))
    · exact fun t ht href ho => h _ (.throttle ht (.oracle href ho))
    · exact fun e he heq => h _ (.name (.repeated hblank hcolon ⟨e, he, heq⟩))
  · rintro ⟨hs, hnew⟩ v h
    cases h with
    | name h =>
      rcases h with hb | ⟨-, hc⟩ | ⟨-, -, e, he, heq⟩
      · exact hs.name_notBlank hb
      · exact hs.name_noColon hc
      · exact hnew e he heq
    | nodes h =>
      rcases h with h | ⟨hn, h⟩
      · exact hs.nodes_nonempty h
      · exact Node.sound_iff.mp (hs.nodes_sound _ (List.mem_of_getElem? hn)) _ h
    | balancing h =>
      rcases h with ⟨ha, hb⟩ | h
      · exact hs.param_notBlank _ ha hb
      · exact hs.attempts h
    | throttle ht h =>
      rcases h with h | h | ⟨href, ho⟩
      · exact Int64.not_le.mpr (hs.limit_pos _ ht) h
      · exact Int64.not_le.mpr (hs.window_pos _ ht) h
      · exact hs.oracle _ ht href ho

end

theorem EventSinkConfig.not_breaks_iff {e : EventSinkConfig} :
    (∀ v, ¬ e.Breaks v) ↔ (e.kind = .http → e.endpoint ≠ none) ∧
      (e.kind ≠ .none → 1 ≤ e.bufferCapacity) := by
  have hcapacity : 1 ≤ e.bufferCapacity ↔ e.bufferCapacity ≠ 0 := by
    rw [UInt64.le_iff_toNat_le, ne_eq, ← UInt64.toNat_inj]
    exact Nat.one_le_iff_ne_zero
  rw [hcapacity]
  constructor
  · intro h
    exact ⟨fun hk he => h _ (.noEndpoint hk he), fun hk hc => h _ (.noCapacity hk hc)⟩
  · rintro ⟨hendpoint, hcapacity⟩ v (⟨hk, he⟩ | ⟨hk, hc⟩)
    · exact hendpoint hk he
    · exact hcapacity hk hc

/-! ### The report of a configuration -/

/-- The reports of the services, one after the other, and that of event delivery after them. -/
def Config.Reports (c : Config) (vs : List Violation) : Prop :=
  ∃ (report : Nat → List Violation) (sink : List Violation),
    vs = (List.range c.services.length).flatMap report ++ sink ∧
    (∀ i s, c.services[i]? = some s →
      Lists (report i) (s.Breaks c.throttle.oracleUrl (c.services.take i))) ∧
    Lists sink c.throttle.events.Breaks

theorem Config.Reports.unique {c : Config} {vs ws : List Violation} (hv : c.Reports vs)
    (hw : c.Reports ws) : vs = ws := by
  obtain ⟨report, sink, rfl, hreport, hsink⟩ := hv
  obtain ⟨report', sink', rfl, hreport', hsink'⟩ := hw
  have hservices : ∀ i ∈ List.range c.services.length, report i = report' i := by
    intro i hi
    have hs := List.getElem?_eq_getElem (List.mem_range.mp hi)
    exact (hreport i _ hs).unique (hreport' i _ hs)
  rw [List.flatMap_congr hservices, hsink.unique hsink']

/-- The walk over the services makes their reports, with the names of the services before standing
for these. -/
theorem exists_reports_serviceViolations (oracle : Option String) (names : List String)
    (earlier services : List ServiceConfig)
    (hnames : ∀ id, acceptableId id = true → (id ∈ names ↔ ∃ e ∈ earlier, e.id = id)) :
    ∃ report : Nat → List Violation,
      serviceViolations oracle.isSome names services =
        (List.range services.length).flatMap report ∧
      ∀ i s, services[i]? = some s →
        Lists (report i) (s.Breaks oracle (earlier ++ services.take i)) := by
  induction services generalizing names earlier with
  | nil => exact ⟨fun _ => [], rfl, by simp⟩
  | cons s rest ih =>
    have hnames' : ∀ id, acceptableId id = true →
        (id ∈ (if acceptableId s.id then s.id :: names else names) ↔
          ∃ e ∈ earlier ++ [s], e.id = id) := by
      intro id hid
      by_cases hs : acceptableId s.id = true
      · simp [hs, hnames id hid, or_and_right, exists_or, or_comm, eq_comm]
      · have hne : s.id ≠ id := fun he => hs (he ▸ hid)
        simp [hs, hnames id hid, or_and_right, exists_or, hne]
    obtain ⟨report, heq, hreport⟩ := ih _ _ hnames'
    refine ⟨fun i => i.casesOn (idViolations names s.id ++ s.violations oracle.isSome) report,
      ?_, ?_⟩
    · rw [serviceViolations, heq, List.length_cons, List.range_succ_eq_map, List.flatMap_cons,
        List.flatMap_map]
      rfl
    · rintro (_ | i) t ht
      · obtain rfl := Option.some.inj ht
        simpa using ServiceConfig.lists_report (hnames s.id)
      · simpa using hreport i t ht

theorem Config.reports_violations (c : Config) : c.Reports c.violations := by
  obtain ⟨report, heq, hreport⟩ := exists_reports_serviceViolations c.throttle.oracleUrl [] []
    c.services (by simp)
  exact ⟨report, _, by rw [violations, heq], hreport, c.throttle.events.lists_violations⟩

/-- Pairs are looked at with the later one first. -/
theorem pairwise_iff_forall_take {α : Type} {R : α → α → Prop} {l : List α} :
    l.Pairwise R ↔ ∀ i x, l[i]? = some x → ∀ e ∈ l.take i, R e x := by
  rw [List.pairwise_iff_getElem]
  constructor
  · intro h i x hx e he
    obtain ⟨hi, rfl⟩ := List.getElem?_eq_some_iff.mp hx
    obtain ⟨j, hj, rfl⟩ := List.mem_take_iff_getElem.mp he
    exact h j i (by omega) hi (by omega)
  · intro h i j hi hj hij
    exact h j l[j] (List.getElem?_eq_getElem hj) l[i]
      (List.mem_take_iff_getElem.mpr ⟨i, by omega, rfl⟩)

/-- Every service keeps its rules, after those before it, if each is well-formed and no two have one
name. -/
theorem forall_not_breaks_iff {oracle : Option String} {services : List ServiceConfig} :
    (∀ i (s : ServiceConfig), services[i]? = some s → ∀ v, ¬ s.Breaks oracle (services.take i) v) ↔
      (∀ s ∈ services, s.WellFormed oracle) ∧ (services.map (·.id)).Nodup := by
  rw [List.Nodup, List.pairwise_map, pairwise_iff_forall_take]
  simp only [ServiceConfig.not_breaks_iff]
  constructor
  · intro h
    refine ⟨fun s hs => ?_, fun i s hs => (h i s hs).2⟩
    obtain ⟨i, hi⟩ := List.mem_iff_getElem?.mp hs
    exact (h i s hi).1
  · rintro ⟨hservices, hnames⟩ i s hs
    exact ⟨hservices s (List.mem_of_getElem? hs), hnames i s hs⟩

theorem Config.violations_eq_nil_iff {c : Config} : c.violations = [] ↔ c.WellFormed := by
  obtain ⟨report, sink, heq, hreport, hsink⟩ := c.reports_violations
  have hempty : (∀ i ∈ List.range c.services.length, report i = []) ↔
      ∀ i (s : ServiceConfig), c.services[i]? = some s →
        ∀ v, ¬ s.Breaks c.throttle.oracleUrl (c.services.take i) v := by
    constructor
    · intro h i s hs
      obtain ⟨hi, -⟩ := List.getElem?_eq_some_iff.mp hs
      exact (hreport i s hs).eq_nil_iff.mp (h i (List.mem_range.mpr hi))
    · intro h i hi
      have hs := List.getElem?_eq_getElem (List.mem_range.mp hi)
      exact (hreport i _ hs).eq_nil_iff.mpr (h i _ hs)
  rw [heq, List.append_eq_nil_iff, List.flatMap_eq_nil_iff, hempty, forall_not_breaks_iff,
    hsink.eq_nil_iff, EventSinkConfig.not_breaks_iff]
  constructor
  · rintro ⟨⟨hservices, hnames⟩, hendpoint, hcapacity⟩
    exact ⟨hservices, hnames, hendpoint, hcapacity⟩
  · rintro ⟨hservices, hnames, hendpoint, hcapacity⟩
    exact ⟨⟨hservices, hnames⟩, hendpoint, hcapacity⟩

end Gatehouse
