import FlightStream.Proofs.Graphite.Sink
import Mathlib.Data.List.Chain

/-!
What goes over the wire, connection by connection. A trace beside a link lists, for each connection
that was made, the frames given to `write` on it. Each list is a block of the accepted metrics, and
the blocks follow one another in order of acceptance. Two of them share at most the frame on which
the earlier connection broke, and what lies between them was dropped (`WireOrder`).

All of it rests on what holds between calls: whenever there is a connection, nothing waits, and its
block ends where the settled metrics end (`Tracks.current`).
-/

namespace FlightStream.Graphite

variable {ω τ : Type}

/-! ## Tracing a link -/

/-- A connection as it went: the frames that were given to `write` on it, one by each call, and
whether the write or the drain of the last one failed. -/
structure Connection where
  frames : List (List UInt8)
  broken : Bool

/-- A new connection. -/
def Connection.fresh : Connection := ⟨[], false⟩

/-- After a frame was given to `write`. -/
def Connection.write (frame : List UInt8) (went : Bool) (c : Connection) : Connection :=
  ⟨c.frames ++ [frame], !went⟩

/-- After the frame given to `write` last was drained. -/
def Connection.drain (went : Bool) (c : Connection) : Connection := { c with broken := !went }

/-- An environment with the connections that were made, the latest first. -/
structure Traced (ω : Type) where
  env : ω
  connections : List Connection

/-- The link with a trace. -/
def Link.traced (link : Link ω τ) : Link (Traced ω) τ where
  now t := link.now t.env
  connect t :=
    let answer := link.connect t.env
    (⟨answer.1, if answer.2.isOk then .fresh :: t.connections else t.connections⟩, answer.2)
  write frame t :=
    let answer := link.write frame t.env
    (⟨answer.1, t.connections.modifyHead (.write frame answer.2.isOk)⟩, answer.2)
  drain t :=
    let answer := link.drain t.env
    (⟨answer.1, t.connections.modifyHead (.drain answer.2.isOk)⟩, answer.2)
  close t :=
    let answer := link.close t.env
    ({ t with env := answer.1 }, answer.2)

/-- The link with a trace answers as the link does. -/
theorem Link.traced_mirrors (link : Link ω τ) : link.traced.Mirrors link Traced.env where
  now _ := rfl
  connect _ := rfl
  write _ _ := rfl
  drain _ := rfl
  close _ := rfl

/-! ## Blocks of metrics -/

/-- A block of the accepted metrics: the places of its first metric and after its last one, and
whether the connection broke on its last frame. -/
structure Block where
  first : Nat
  last : Nat
  broken : Bool

/-- The connection over which the block went. -/
def Block.connection (accepted : List Metric) (b : Block) : Connection :=
  ⟨((accepted.take b.last).drop b.first).map Frame.encode, b.broken⟩

/-- The order in which frames go over the wire, where `fates` are those of the metrics that are
settled, and the latest block comes first. -/
structure WireOrder (accepted : List Metric) (fates : List Fate) (blocks : List Block)
    (connections : List Connection) : Prop where
  /-- What was written on each connection is a block. -/
  written : connections = blocks.map (Block.connection accepted)
  bounds : ∀ b ∈ blocks, b.first ≤ b.last ∧ b.last ≤ accepted.length
  /-- A block shares no more with a later one than the frame on which its connection broke. -/
  ordered : blocks.Pairwise fun later earlier =>
    earlier.last ≤ later.first + earlier.broken.toNat
  /-- What lies between two blocks was dropped. -/
  between : blocks.IsChain fun later earlier =>
    ∀ place, earlier.last ≤ place → place < later.first → fates[place]? = some .dropped
  /-- What was written before a connection broke was sent. -/
  delivered : ∀ b ∈ blocks, ∀ place, b.first ≤ place → place + b.broken.toNat < b.last →
    fates[place]? = some .sent

/-- What went over the wire, and the counts of a delivery, which are those of the fates. -/
structure Carried (accepted : List Metric) (fates : List Fate) (blocks : List Block)
    (d : Delivery τ) (connections : List Connection) : Prop where
  wire : WireOrder accepted fates blocks connections
  settled : fates.length ≤ accepted.length
  sent : d.sent = fates.count .sent
  dropped : d.dropped = fates.count .dropped

/-- Before the end, also within a call: the metrics after the settled ones wait. The latest block
ends with the settled metrics up to dropped ones, and goes one further if its connection broke;
while there is a connection, its block ends with them exactly. -/
structure Tracks (config : Config τ) (accepted : List Metric) (fates : List Fate)
    (blocks : List Block) (d : Delivery τ) (connections : List Connection) : Prop
    extends Carried accepted fates blocks d connections where
  waiting : d.backlog = accepted.drop fates.length
  latest : ∀ b ∈ blocks.head?, b.first ≤ fates.length ∧ b.last ≤ fates.length + b.broken.toNat ∧
    ∀ place, b.last ≤ place → place < fates.length → fates[place]? = some .dropped
  current : d.connected = true → ∃ b earlier, blocks = b :: earlier ∧ b.broken = false ∧
    b.last = fates.length ∧ (config.capacity = 0 → b.first = b.last)

/-- Nothing waits while there is a connection. -/
def Delivery.Idle (d : Delivery τ) : Prop := d.connected = true → d.backlog = []

theorem tracks_initial [OfNat τ 0] (config : Config τ) :
    Tracks config [] [] [] (.initial config) [] where
  wire := ⟨rfl, (fun _ member => nomatch member), .nil, .nil, fun _ member => nomatch member⟩
  settled := Nat.le_refl 0
  waiting := rfl
  sent := rfl
  dropped := rfl
  latest _ member := nomatch member
  current connected := nomatch connected

/-- A fate stays when more is settled. -/
theorem fate_append {fates more : List Fate} {place : Nat} {fate : Fate}
    (known : fates[place]? = some fate) : (fates ++ more)[place]? = some fate := by
  obtain ⟨inside, -⟩ := List.getElem?_eq_some_iff.mp known
  rw [List.getElem?_append_left inside, known]

namespace WireOrder

variable {accepted : List Metric} {fates more : List Fate} {blocks : List Block}
  {connections : List Connection}

/-- What is settled later changes nothing. -/
theorem settle (wire : WireOrder accepted fates blocks connections) (more : List Fate) :
    WireOrder accepted (fates ++ more) blocks connections where
  written := wire.written
  bounds := wire.bounds
  ordered := wire.ordered
  between := wire.between.imp fun _ _ dropped place low high =>
    fate_append (dropped place low high)
  delivered b member place low high :=
    fate_append (wire.delivered b member place low high)

/-- What is accepted later changes nothing. -/
theorem accept (wire : WireOrder accepted fates blocks connections) (more : List Metric) :
    WireOrder (accepted ++ more) fates blocks connections where
  written := by
    rw [wire.written]
    refine List.map_congr_left fun b member => ?_
    unfold Block.connection
    rw [List.take_append_of_le_length (wire.bounds b member).2]
  bounds b member := by
    have := wire.bounds b member
    rw [List.length_append]
    omega
  ordered := wire.ordered
  between := wire.between
  delivered := wire.delivered

/-- A new connection begins a block at some place, if all blocks end there and what follows the
latest one was dropped. -/
theorem connect (wire : WireOrder accepted fates blocks connections) {place : Nat}
    (inside : place ≤ accepted.length)
    (passed : ∀ b ∈ blocks, b.last ≤ place + b.broken.toNat)
    (since : ∀ b ∈ blocks.head?, ∀ other, b.last ≤ other → other < place →
      fates[other]? = some .dropped) :
    WireOrder accepted fates (⟨place, place, false⟩ :: blocks) (.fresh :: connections) where
  written := by
    rw [wire.written, List.map_cons]
    simp [Block.connection, Connection.fresh]
  bounds := List.forall_mem_cons.mpr ⟨⟨Nat.le_refl _, inside⟩, wire.bounds⟩
  ordered := List.pairwise_cons.mpr ⟨passed, wire.ordered⟩
  between := List.isChain_cons.mpr ⟨since, wire.between⟩
  delivered := by
    refine List.forall_mem_cons.mpr ⟨fun other low high => ?_, wire.delivered⟩
    dsimp only at low high
    omega

/-- The latest block becomes another, which does not begin before it, nor after anything that was
not dropped. -/
theorem replace {b : Block} {earlier : List Block}
    (wire : WireOrder accepted fates (b :: earlier) connections) (next : Block)
    (bounds : next.first ≤ next.last ∧ next.last ≤ accepted.length)
    (onward : b.first ≤ next.first)
    (skipped : ∀ place, b.first ≤ place → place < next.first → fates[place]? = some .dropped)
    (delivered : ∀ place, next.first ≤ place → place + next.broken.toNat < next.last →
      fates[place]? = some .sent) :
    WireOrder accepted fates (next :: earlier)
      ((next :: earlier).map (Block.connection accepted)) where
  written := rfl
  bounds := List.forall_mem_cons.mpr ⟨bounds, (List.forall_mem_cons.mp wire.bounds).2⟩
  ordered := by
    obtain ⟨passed, others⟩ := List.pairwise_cons.mp wire.ordered
    refine List.pairwise_cons.mpr ⟨fun other member => ?_, others⟩
    have := passed other member
    omega
  between := by
    obtain ⟨since, others⟩ := List.isChain_cons.mp wire.between
    refine List.isChain_cons.mpr ⟨fun other member place low high => ?_, others⟩
    rcases Nat.lt_or_ge place b.first with before | after
    · exact since other member place low before
    · exact skipped place after high
  delivered :=
    List.forall_mem_cons.mpr ⟨delivered, (List.forall_mem_cons.mp wire.delivered).2⟩

end WireOrder

namespace Tracks

variable {config : Config τ} {accepted : List Metric} {fates : List Fate} {blocks : List Block}
  {d other : Delivery τ} {connections : List Connection}

/-- Only the waiting metrics, the connection and the counts matter. -/
theorem restate (tracks : Tracks config accepted fates blocks d connections)
    (backlog : other.backlog = d.backlog) (sent : other.sent = d.sent)
    (dropped : other.dropped = d.dropped)
    (connected : other.connected = true → d.connected = true) :
    Tracks config accepted fates blocks other connections where
  wire := tracks.wire
  settled := tracks.settled
  waiting := backlog.trans tracks.waiting
  sent := sent.trans tracks.sent
  dropped := dropped.trans tracks.dropped
  latest := tracks.latest
  current up := tracks.current (connected up)

/-- The first of the waiting metrics is at the place after the settled ones. -/
theorem head_waiting (tracks : Tracks config accepted fates blocks d connections) {m : Metric}
    {rest : List Metric} (waiting : d.backlog = m :: rest) :
    ∃ inside : fates.length < accepted.length, accepted[fates.length] = m ∧
      accepted.drop (fates.length + 1) = rest := by
  have split := tracks.waiting.symm.trans waiting
  have inside : fates.length < accepted.length := by
    by_contra outside
    rw [List.drop_eq_nil_of_le (by omega)] at split
    cases split
  rw [List.drop_eq_getElem_cons inside] at split
  exact ⟨inside, (List.cons.inj split).1, (List.cons.inj split).2⟩

/-! ### Accepting -/

/-- A metric is accepted and none dropped. -/
theorem take (tracks : Tracks config accepted fates blocks d connections) {m : Metric}
    (backlog : other.backlog = d.backlog ++ [m]) (sent : other.sent = d.sent)
    (dropped : other.dropped = d.dropped) (connected : other.connected = d.connected) :
    Tracks config (accepted ++ [m]) fates blocks other connections where
  wire := tracks.wire.accept [m]
  settled := by
    have := tracks.settled
    rw [List.length_append]
    omega
  waiting := by rw [backlog, tracks.waiting, List.drop_append_of_le_length tracks.settled]
  sent := sent.trans tracks.sent
  dropped := dropped.trans tracks.dropped
  latest := tracks.latest
  current up := tracks.current (connected ▸ up)

/-- One more place is settled as dropped. -/
theorem dropped_place {place : Nat} (low : fates.length ≤ place) (high : place < fates.length + 1) :
    (fates ++ [Fate.dropped])[place]? = some .dropped := by
  obtain rfl : place = fates.length := by omega
  exact List.getElem?_concat_length

/-- The oldest of the waiting metrics is dropped. Nothing can wait while there is a connection, so
then it is the new metric, and the block of the connection, still empty, moves on. -/
theorem lose (tracks : Tracks config accepted fates blocks d connections) {oldest : Metric}
    {kept : List Metric} (waiting : d.backlog = oldest :: kept)
    (idle : d.connected = true → config.capacity = 0) (backlog : other.backlog = kept)
    (sent : other.sent = d.sent) (dropped : other.dropped = d.dropped + 1)
    (connected : other.connected = d.connected) :
    ∃ blocks, Tracks config accepted (fates ++ [.dropped]) blocks other connections := by
  obtain ⟨inside, -, rest⟩ := tracks.head_waiting waiting
  have length : (fates ++ [Fate.dropped]).length = fates.length + 1 := List.length_append
  have settled : (fates ++ [Fate.dropped]).length ≤ accepted.length := by omega
  have left : other.backlog = accepted.drop (fates ++ [Fate.dropped]).length := by
    rw [length, rest, backlog]
  have sends : other.sent = (fates ++ [Fate.dropped]).count .sent := by
    rw [sent, tracks.sent, List.count_append]
    rfl
  have drops : other.dropped = (fates ++ [Fate.dropped]).count .dropped := by
    rw [dropped, tracks.dropped, List.count_append]
    rfl
  by_cases up : d.connected = true
  · obtain ⟨b, earlier, rfl, whole, last, empty⟩ := tracks.current up
    have first := empty (idle up)
    have moved := (tracks.wire.settle [.dropped]).replace
      ⟨fates.length + 1, fates.length + 1, false⟩ ⟨Nat.le_refl _, inside⟩
      (by dsimp only; omega) (fun place low high => dropped_place (by omega) high)
      (fun place low high => by dsimp only [Bool.toNat_false] at low high; omega)
    have same : (⟨fates.length + 1, fates.length + 1, false⟩ :: earlier).map
        (Block.connection accepted) = connections := by
      rw [tracks.wire.written, List.map_cons, List.map_cons]
      simp [Block.connection, first, whole]
    rw [same] at moved
    refine ⟨_, ⟨moved, settled, sends, drops⟩, left, ?_, fun _ => ?_⟩
    · intro next member
      obtain rfl := Option.some.inj member
      rw [length]
      exact ⟨Nat.le_refl _, Nat.le_refl _, fun place low high => by dsimp only at low; omega⟩
    · exact ⟨_, earlier, rfl, rfl, length.symm, fun _ => rfl⟩
  · refine ⟨blocks, ⟨tracks.wire.settle _, settled, sends, drops⟩, left, ?_, ?_⟩
    · intro b member
      obtain ⟨first, last, since⟩ := tracks.latest b member
      rw [length]
      refine ⟨by omega, by omega, fun place low high => ?_⟩
      rcases Nat.lt_or_ge place fates.length with before | here
      · exact fate_append (since place low before)
      · exact dropped_place here high
    · intro still
      exact absurd (connected ▸ still) up

/-- Accepting a metric between calls. -/
theorem accept (tracks : Tracks config accepted fates blocks d connections) (idle : d.Idle)
    (room : d.backlog.length ≤ config.capacity) (m : Metric) : ∃ more blocks,
      Tracks config (accepted ++ [m]) (fates ++ more) blocks (d.accept config m).1
        connections := by
  have taken : Tracks config (accepted ++ [m]) fates blocks
      { d with backlog := d.backlog ++ [m] } connections := tracks.take rfl rfl rfl rfl
  unfold Delivery.accept
  by_cases full : d.backlog.length = config.capacity
  · rw [if_pos full]
    rcases grown : d.backlog ++ [m] with _ | ⟨oldest, kept⟩
    · exact absurd grown (by simp)
    · have excess : (oldest :: kept).length - config.capacity = 1 := by
        rw [← grown, List.length_append, List.length_singleton]
        omega
      rw [excess, List.drop_one, List.tail_cons]
      refine ⟨[.dropped], taken.lose grown (fun up => ?_) rfl rfl rfl rfl⟩
      rw [← full, idle up]
      rfl
  · have excess : (d.backlog ++ [m]).length - config.capacity = 0 := by
      rw [List.length_append, List.length_singleton]
      omega
    rw [if_neg full, excess, List.drop_zero]
    exact ⟨[], blocks, (List.append_nil fates).symm ▸ taken⟩

/-! ### Connecting and writing -/

/-- A connection is made. -/
theorem connect (tracks : Tracks config accepted fates blocks d connections)
    (backlog : other.backlog = d.backlog) (sent : other.sent = d.sent)
    (dropped : other.dropped = d.dropped) :
    Tracks config accepted fates (⟨fates.length, fates.length, false⟩ :: blocks) other
      (.fresh :: connections) where
  wire := by
    refine tracks.wire.connect tracks.settled (fun b member => ?_) fun b member =>
      (tracks.latest b member).2.2
    rcases blocks with _ | ⟨latest, earlier⟩
    · cases member
    · obtain ⟨first, last, -⟩ := tracks.latest latest rfl
      rcases List.mem_cons.mp member with rfl | member
      · exact last
      · have := (List.pairwise_cons.mp tracks.wire.ordered).1 b member
        omega
  settled := tracks.settled
  waiting := backlog.trans tracks.waiting
  sent := sent.trans tracks.sent
  dropped := dropped.trans tracks.dropped
  latest b member := by
    obtain rfl := Option.some.inj member
    exact ⟨Nat.le_refl _, Nat.le_refl _, fun place low high => by dsimp only at low; omega⟩
  current _ := ⟨_, blocks, rfl, rfl, rfl, fun _ => rfl⟩

/-- The frame of the first of the waiting metrics goes to the end of the latest block, whether the
connection then breaks or the metric is settled as sent. -/
theorem extend {b : Block} {earlier : List Block}
    (tracks : Tracks config accepted fates (b :: earlier) d connections) {m : Metric}
    {rest : List Metric} (waiting : d.backlog = m :: rest) (whole : b.broken = false)
    (last : b.last = fates.length) (more : List Fate) (broken : Bool)
    (fate : broken = false → (fates ++ more)[fates.length]? = some .sent) :
    WireOrder accepted (fates ++ more) (⟨b.first, fates.length + 1, broken⟩ :: earlier)
      (connections.modifyHead fun c => ⟨c.frames ++ [Frame.encode m], broken⟩) := by
  obtain ⟨inside, here, -⟩ := tracks.head_waiting waiting
  have bounds := (tracks.wire.bounds b List.mem_cons_self).1
  have frames : Block.connection accepted ⟨b.first, fates.length + 1, broken⟩ =
      ⟨(b.connection accepted).frames ++ [Frame.encode m], broken⟩ := by
    unfold Block.connection
    rw [last, ← List.take_append_getElem inside, here, List.drop_append_of_le_length,
      List.map_append]
    · rfl
    · dsimp only
      rw [List.length_take]
      omega
  have longer := (tracks.wire.settle more).replace ⟨b.first, fates.length + 1, broken⟩
    ⟨by dsimp only; omega, inside⟩ (Nat.le_refl _)
    (fun place low high => by dsimp only at high; omega) fun place low high => by
      dsimp only at low high
      rcases Nat.lt_or_ge place fates.length with before | after
      · refine fate_append (tracks.wire.delivered b List.mem_cons_self place low ?_)
        rw [whole, last]
        exact before
      · obtain ⟨rfl, goes⟩ : place = fates.length ∧ broken.toNat = 0 := by omega
        exact fate (Bool.toNat_eq_zero.mp goes)
  rw [tracks.wire.written, List.map_cons, List.modifyHead_cons, ← frames]
  exact longer

/-- The first of the waiting metrics is sent. -/
theorem deliver (tracks : Tracks config accepted fates blocks d connections) {m : Metric}
    {rest : List Metric} (waiting : d.backlog = m :: rest) (up : d.connected = true)
    (room : config.capacity ≠ 0) (backlog : other.backlog = rest)
    (sent : other.sent = d.sent + 1) (dropped : other.dropped = d.dropped) :
    ∃ blocks, Tracks config accepted (fates ++ [.sent]) blocks other
      (connections.modifyHead fun c => ⟨c.frames ++ [Frame.encode m], false⟩) := by
  obtain ⟨inside, -, after⟩ := tracks.head_waiting waiting
  obtain ⟨b, earlier, rfl, whole, last, -⟩ := tracks.current up
  have bounds := (tracks.wire.bounds b List.mem_cons_self).1
  have length : (fates ++ [Fate.sent]).length = fates.length + 1 := List.length_append
  have longer := tracks.extend waiting whole last [.sent] false fun _ =>
    List.getElem?_concat_length
  refine ⟨_, ⟨longer, by omega, ?_, ?_⟩, ?_, ?_, fun _ => ?_⟩
  · rw [sent, tracks.sent, List.count_append]
    rfl
  · rw [dropped, tracks.dropped, List.count_append]
    rfl
  · rw [length, after, backlog]
  · intro next member
    obtain rfl := Option.some.inj member
    rw [length]
    exact ⟨by dsimp only; omega, Nat.le_refl _, fun place low high => by dsimp only at low; omega⟩
  · exact ⟨_, earlier, rfl, rfl, length.symm, fun none => absurd none room⟩

/-- The connection breaks on the first of the waiting metrics. -/
theorem lapse (tracks : Tracks config accepted fates blocks d connections) {m : Metric}
    {rest : List Metric} (waiting : d.backlog = m :: rest) (up : d.connected = true)
    (backlog : other.backlog = d.backlog) (sent : other.sent = d.sent)
    (dropped : other.dropped = d.dropped) (down : other.connected = false) :
    ∃ blocks, Tracks config accepted fates blocks other
      (connections.modifyHead fun c => ⟨c.frames ++ [Frame.encode m], true⟩) := by
  obtain ⟨b, earlier, rfl, whole, last, -⟩ := tracks.current up
  have bounds := (tracks.wire.bounds b List.mem_cons_self).1
  have longer := tracks.extend waiting whole last [] true (nomatch ·)
  rw [List.append_nil] at longer
  refine ⟨_, ⟨longer, tracks.settled, sent.trans tracks.sent, dropped.trans tracks.dropped⟩,
    backlog.trans tracks.waiting, ?_, fun still => ?_⟩
  · intro next member
    obtain rfl := Option.some.inj member
    exact ⟨by dsimp only; omega, Nat.le_refl _, fun place low high => by dsimp only at low; omega⟩
  · rw [down] at still
    cases still

end Tracks

/-! ## What a delivery does -/

/-- A link on which writing and draining fail only as connections do. Connecting and closing may
fail in any way. -/
structure Link.Breaking (link : Link ω τ) : Prop where
  write : ∀ frame env b, (link.write frame env).2 = .error b → b.isHandled = true
  drain : ∀ env b, (link.drain env).2 = .error b → b.isHandled = true

/-- A write goes on the latest connection, and breaks it if it fails. -/
theorem Link.Breaking.write_traced {link : Link ω τ} (breaking : link.Breaking)
    (frame : List UInt8) (t : Traced ω) :
    (∃ env, link.traced.write frame t =
        (⟨env, t.connections.modifyHead (.write frame true)⟩, .ok ())) ∨
      ∃ env b, link.traced.write frame t =
        (⟨env, t.connections.modifyHead (.write frame false)⟩, .error b) ∧ b.isHandled = true := by
  rcases wrote : link.write frame t.env with ⟨env, b | _⟩
  · exact .inr ⟨env, b, by simp [traced, wrote, Except.isOk, Except.toBool],
      breaking.write frame t.env b (by rw [wrote])⟩
  · exact .inl ⟨env, by simp [traced, wrote, Except.isOk, Except.toBool]⟩

theorem Link.Breaking.drain_traced {link : Link ω τ} (breaking : link.Breaking) (t : Traced ω) :
    (∃ env, link.traced.drain t = (⟨env, t.connections.modifyHead (.drain true)⟩, .ok ())) ∨
      ∃ env b, link.traced.drain t =
        (⟨env, t.connections.modifyHead (.drain false)⟩, .error b) ∧ b.isHandled = true := by
  rcases drained : link.drain t.env with ⟨env, b | _⟩
  · exact .inr ⟨env, b, by simp [traced, drained, Except.isOk, Except.toBool],
      breaking.drain t.env b (by rw [drained])⟩
  · exact .inl ⟨env, by simp [traced, drained, Except.isOk, Except.toBool]⟩

/-- An attempt makes a connection, or leaves the trace as it is. -/
theorem attempt_traced (config : Config τ) (link : Link ω τ) (t : Traced ω) :
    (∃ env, Delivery.attempt config link.traced t = (⟨env, .fresh :: t.connections⟩, .ok ())) ∨
      ∃ env b, Delivery.attempt config link.traced t = (⟨env, t.connections⟩, .error b) := by
  unfold Delivery.attempt
  by_cases noTime : config.noTimeToConnect = true
  · rw [if_pos noTime]
    exact .inr ⟨t.env, _, rfl⟩
  · rw [if_neg noTime]
    rcases tried : link.connect t.env with ⟨env, b | _⟩
    · exact .inr ⟨env, b, by simp [Link.traced, tried, Except.isOk, Except.toBool]⟩
    · exact .inl ⟨env, by simp [Link.traced, tried, Except.isOk, Except.toBool]⟩

/-- A step that gave up the connection and did nothing else. -/
structure Down (d : Delivery τ) (t : Traced ω) (s : Step (Traced ω) τ) : Prop where
  connected : s.delivery.connected = false
  backlog : s.delivery.backlog = d.backlog
  sent : s.delivery.sent = d.sent
  dropped : s.delivery.dropped = d.dropped
  connections : s.link.connections = t.connections

namespace Delivery

variable (config : Config τ) (link : Link ω τ) (d : Delivery τ) (t : Traced ω)

theorem down_disconnect : Down d t (d.disconnect link.traced t) := by
  unfold disconnect
  by_cases up : d.connected = true
  · rw [if_pos up]
    simp only [Link.traced]
    rcases link.close t.env with ⟨env, b | _⟩
    · exact ⟨rfl, rfl, rfl, rfl, rfl⟩
    · exact ⟨rfl, rfl, rfl, rfl, rfl⟩
  · rw [if_neg up]
    exact ⟨Bool.eq_false_iff.mpr up, rfl, rfl, rfl, rfl⟩

variable [Add τ] [LT τ] [DecidableLT τ]

theorem down_handleLoss {b : Breakage} (handled : b.isHandled = true) :
    Down d t (d.handleLoss config link.traced t b) := by
  have down := d.down_disconnect link t
  unfold handleLoss Step.andThen
  rw [if_pos handled]
  rcases (d.disconnect link.traced t).failure with _ | fault
  · exact ⟨down.connected, down.backlog, down.sent, down.dropped, down.connections⟩
  · exact ⟨down.connected, down.backlog, down.sent, down.dropped, down.connections⟩

end Delivery

/-- What a step leaves: more is settled, the rest waits, and there is no connection while it
does. -/
def Settles (config : Config τ) (accepted : List Metric) (fates : List Fate)
    (s : Step (Traced ω) τ) : Prop :=
  ∃ more blocks, Tracks config accepted (fates ++ more) blocks s.delivery s.link.connections ∧
    s.delivery.Idle

namespace Tracks

variable {config : Config τ} {link : Link ω τ} {accepted : List Metric} {fates : List Fate}
  {blocks : List Block} {d : Delivery τ} {t : Traced ω} [Add τ] [LT τ] [DecidableLT τ]

/-- Writing what waits sends it from the first on, up to one on which the connection breaks. The
induction is over what waits. -/
theorem writeAll (breaking : link.Breaking) {waiting : List Metric}
    (tracks : Tracks config accepted fates blocks { d with backlog := waiting } t.connections)
    (up : d.connected = true) (room : waiting.length ≤ config.capacity) :
    Settles config accepted fates (d.writeAll config link.traced t waiting) := by
  induction waiting generalizing d t fates blocks with
  | nil =>
    exact ⟨[], blocks, (List.append_nil fates).symm ▸ tracks, fun _ => rfl⟩
  | cons m rest ih =>
    rw [List.length_cons] at room
    -- The connection breaks on `m`, by its write or by its drain.
    have broke : ∀ (b : Breakage) (after : Traced ω), b.isHandled = true →
        after.connections =
          t.connections.modifyHead (fun c => ⟨c.frames ++ [Frame.encode m], true⟩) →
        Settles config accepted fates
          ({ d with backlog := m :: rest }.handleLoss config link.traced after b) := by
      intro b after handled connections
      have down :=
        Delivery.down_handleLoss config link { d with backlog := m :: rest } after handled
      obtain ⟨blocks, lapsed⟩ := tracks.lapse rfl up down.backlog down.sent down.dropped
        down.connected
      rw [← connections, ← down.connections] at lapsed
      exact ⟨[], blocks, (List.append_nil fates).symm ▸ lapsed, fun still => by
        rw [down.connected] at still
        cases still⟩
    unfold Delivery.writeAll
    rcases breaking.write_traced (Frame.encode m) t with ⟨env, wrote⟩ | ⟨env, b, failed, handled⟩
    · simp only [wrote]
      rcases breaking.drain_traced ⟨env, t.connections.modifyHead (.write (Frame.encode m) true)⟩
        with ⟨env, drained⟩ | ⟨env, b, failed, handled⟩
      · simp only [drained, List.modifyHead_modifyHead]
        obtain ⟨blocks, delivered⟩ : ∃ blocks, Tracks config accepted (fates ++ [.sent]) blocks
            { d with backlog := rest, sent := d.sent + 1 }
            (t.connections.modifyHead fun c => ⟨c.frames ++ [Frame.encode m], false⟩) := by
          refine tracks.deliver rfl up (by omega) ?_ ?_ ?_ <;> rfl
        obtain ⟨more, blocks, settled, idle⟩ := ih
          (d := { d with backlog := rest, sent := d.sent + 1 })
          (t := ⟨env, t.connections.modifyHead (.drain true ∘ .write (Frame.encode m) true)⟩)
          delivered up (by omega)
        exact ⟨.sent :: more, blocks, by rwa [List.append_assoc] at settled, idle⟩
      · simp only [failed, List.modifyHead_modifyHead]
        exact broke b _ handled rfl
    · simp only [failed]
      exact broke b _ handled rfl

variable (link) in
/-- Making sure that there is a connection. Should that fail, there is none. -/
theorem ensureConnected (tracks : Tracks config accepted fates blocks d t.connections) :
    let s := d.ensureConnected config link.traced t
    (∃ blocks, Tracks config accepted fates blocks s.delivery s.link.connections) ∧
      s.delivery.backlog = d.backlog ∧ (s.failure ≠ none → s.delivery.connected = false) := by
  dsimp only
  unfold Delivery.ensureConnected
  by_cases up : d.connected = true
  · rw [if_pos up]
    exact ⟨⟨blocks, tracks⟩, rfl, fun failed => absurd rfl failed⟩
  rw [if_neg up]
  by_cases early : link.traced.now t < d.nextAttempt
  · rw [if_pos early]
    exact ⟨⟨blocks, tracks⟩, rfl, fun failed => absurd rfl failed⟩
  rw [if_neg early]
  rcases attempt_traced config link t with ⟨env, made⟩ | ⟨env, b, refused⟩
  · simp only [made]
    exact ⟨⟨_, tracks.connect rfl rfl rfl⟩, rfl, fun failed => absurd rfl failed⟩
  · simp only [refused]
    split
    · exact ⟨⟨blocks, tracks.restate rfl rfl rfl id⟩, rfl, fun failed => absurd rfl failed⟩
    · exact ⟨⟨blocks, tracks⟩, rfl, fun _ => Bool.eq_false_iff.mpr up⟩

/-- Writing what waits if there is a connection or one can be made. -/
theorem flush (breaking : link.Breaking)
    (tracks : Tracks config accepted fates blocks d t.connections)
    (room : d.backlog.length ≤ config.capacity) :
    Settles config accepted fates (d.flush config link.traced t) := by
  obtain ⟨⟨blocks, ensured⟩, backlog, down⟩ := tracks.ensureConnected link
  unfold Delivery.flush Step.andThen
  generalize d.ensureConnected config link.traced t = s at ensured backlog down
  rcases failure : s.failure with _ | fault
  · by_cases up : s.delivery.connected = true
    · simp only [if_pos up]
      exact ensured.writeAll breaking up (backlog ▸ room)
    · simp only [if_neg up]
      exact ⟨[], blocks, (List.append_nil fates).symm ▸ ensured, fun still => absurd still up⟩
  · have none : s.delivery.connected = false := down (by rw [failure]; simp)
    exact ⟨[], blocks, (List.append_nil fates).symm ▸ ensured, fun still => by
      rw [none] at still
      cases still⟩

end Tracks

/-! ## Whole sequences of calls -/

/-- What holds between calls: nothing waits while there is a connection, and no more metrics wait
than may. -/
structure Rests (config : Config τ) (accepted : List Metric) (fates : List Fate)
    (blocks : List Block) (d : Delivery τ) (connections : List Connection) : Prop
    extends Tracks config accepted fates blocks d connections where
  idle : d.Idle
  room : d.backlog.length ≤ config.capacity

section Calls

variable [Add τ] [LT τ] [DecidableLT τ] [OfNat τ 0]

/-- A call that sends a metric, and what becomes of the environment before it. -/
structure Sending (ω : Type) where
  wait : ω → ω
  metric : Metric

/-- The same call where the environment has a trace. -/
def Traced.wait (f : ω → ω) (t : Traced ω) : Traced ω := { t with env := f t.env }

def Sending.traced (call : Sending ω) : Sending (Traced ω) := ⟨Traced.wait call.wait, call.metric⟩

/-- What calls leave of a new delivery and the environment. A failure that escapes from a call does
not keep the next one from being made. -/
def sendAll (config : Config τ) (link : Link ω τ) (network : ω) (calls : List (Sending ω)) :
    Delivery τ × ω :=
  calls.foldl (fun s call =>
    let step := s.1.send config link (call.wait s.2) call.metric
    (step.delivery, step.link)) (.initial config, network)

/-- The end after calls, and what becomes of the environment before it. -/
def endAfter (config : Config τ) (link : Link ω τ) (network : ω) (calls : List (Sending ω))
    (wait : ω → ω) : Step ω τ :=
  let s := sendAll config link network calls
  s.1.finish config link (wait s.2)

variable {config : Config τ} {link : Link ω τ} {accepted : List Metric} {fates : List Fate}
  {blocks : List Block} {d : Delivery τ} {t : Traced ω}

omit [OfNat τ 0] in
/-- Sending a metric between calls. -/
theorem Rests.send (breaking : link.Breaking)
    (rests : Rests config accepted fates blocks d t.connections) (m : Metric) :
    let s := d.send config link.traced t m
    ∃ more blocks, Rests config (accepted ++ [m]) (fates ++ more) blocks s.delivery
      s.link.connections := by
  obtain ⟨taken, blocks, tracks⟩ := rests.accept rests.idle rests.room m
  obtain ⟨-, -, room, -⟩ := d.accept_spec config m rests.room
  obtain ⟨more, blocks, settled, idle⟩ := tracks.flush breaking room
  refine ⟨taken ++ more, blocks, ⟨?_, idle, ?_⟩⟩
  · rw [← List.append_assoc]
    exact settled
  · have left := settled.waiting
    have before := tracks.waiting
    rw [List.length_append, ← List.drop_drop, ← before] at left
    show ((d.accept config m).1.flush config link.traced t).delivery.backlog.length ≤ _
    rw [left, List.length_drop]
    omega

/-- Any calls keep what holds between calls. -/
theorem rests_sendAll (config : Config τ) (breaking : link.Breaking) (network : ω)
    (calls : List (Sending ω)) :
    let s := sendAll config link.traced ⟨network, []⟩ (calls.map .traced)
    ∃ fates blocks, Rests config (calls.map (·.metric)) fates blocks s.1 s.2.connections := by
  induction calls using List.reverseRecOn with
  | nil => exact ⟨[], [], ⟨tracks_initial config, (fun up => nomatch up), Nat.zero_le _⟩⟩
  | append_singleton calls call ih =>
    obtain ⟨fates, blocks, rests⟩ := ih
    unfold sendAll at rests ⊢
    rw [List.map_append, List.map_append, List.map_singleton, List.map_singleton,
      List.foldl_concat]
    obtain ⟨more, blocks, next⟩ := Rests.send breaking (t := Traced.wait call.wait _) rests
      call.metric
    exact ⟨fates ++ more, blocks, next⟩

/-! ### The end -/

/-- What a step at the end leaves. -/
def Ends (accepted : List Metric) (fates : List Fate) (s : Step (Traced ω) τ) : Prop :=
  ∃ more blocks, Carried accepted (fates ++ more) blocks s.delivery s.link.connections ∧
    s.delivery.Idle

omit [Add τ] [LT τ] [DecidableLT τ] [OfNat τ 0] in
theorem Ends.andThen {s : Step (Traced ω) τ} (ends : Ends accepted fates s)
    (next : Delivery τ → Traced ω → Step (Traced ω) τ)
    (onward : Ends accepted fates (next s.delivery s.link)) :
    Ends accepted fates (s.andThen next) := by
  unfold Step.andThen
  rcases s.failure with _ | fault
  · exact onward
  · exact ends

omit [Add τ] [LT τ] [DecidableLT τ] [OfNat τ 0] in
theorem Ends.discard {s : Step (Traced ω) τ} (ends : Ends accepted fates s) :
    Ends accepted fates (s.delivery.discard s.link) := by
  obtain ⟨more, blocks, carried, idle⟩ := ends
  unfold Delivery.discard
  split
  · exact ⟨more, blocks, carried, idle⟩
  · exact ⟨more, blocks, ⟨carried.wire, carried.settled, carried.sent, carried.dropped⟩,
      fun _ => rfl⟩

omit [Add τ] [LT τ] [DecidableLT τ] [OfNat τ 0] in
theorem Ends.disconnect {s : Step (Traced ω) τ} (ends : Ends accepted fates s) :
    Ends accepted fates (s.delivery.disconnect link.traced s.link) := by
  obtain ⟨more, blocks, carried, -⟩ := ends
  have down := s.delivery.down_disconnect link s.link
  refine ⟨more, blocks, ⟨?_, carried.settled, down.sent.trans carried.sent,
    down.dropped.trans carried.dropped⟩, fun still => ?_⟩
  · rw [down.connections]
    exact carried.wire
  · rw [down.connected] at still
    cases still

/-- The end between calls. -/
theorem Rests.finish (breaking : link.Breaking)
    (rests : Rests config accepted fates blocks d t.connections) :
    Ends accepted fates (d.finish config link.traced t) := by
  have tried : Ends accepted fates (if d.backlog.isEmpty then .stay d t
      else { d with nextAttempt := 0 }.flush config link.traced t) := by
    split
    · exact ⟨[], blocks, (List.append_nil fates).symm ▸ rests.toCarried, rests.idle⟩
    · have still : Tracks config accepted fates blocks { d with nextAttempt := 0 } t.connections :=
        rests.restate rfl rfl rfl id
      obtain ⟨more, blocks, tracks, idle⟩ := still.flush breaking rests.room
      exact ⟨more, blocks, tracks.toCarried, idle⟩
  have discarded := tried.andThen Delivery.discard tried.discard
  exact discarded.andThen (fun d t => d.disconnect link.traced t) discarded.disconnect

/-! ### The trace -/

/-- The trace changes nothing of what calls do. -/
theorem sendAll_traced (config : Config τ) (link : Link ω τ) (network : ω)
    (calls : List (Sending ω)) :
    (sendAll config link.traced ⟨network, []⟩ (calls.map .traced)).map id Traced.env =
      sendAll config link network calls := by
  induction calls using List.reverseRecOn with
  | nil => rfl
  | append_singleton calls call ih =>
    unfold sendAll at ih ⊢
    rw [List.map_append, List.map_singleton, List.foldl_concat, List.foldl_concat, ← ih]
    have same := link.traced_mirrors.send config
      (sendAll config link.traced ⟨network, []⟩ (calls.map .traced)).1
      (Traced.wait call.wait (sendAll config link.traced ⟨network, []⟩ (calls.map .traced)).2)
      call.metric
    exact congrArg (fun step => (step.delivery, step.link)) same

theorem endAfter_traced (config : Config τ) (link : Link ω τ) (network : ω)
    (calls : List (Sending ω)) (wait : ω → ω) :
    (endAfter config link.traced ⟨network, []⟩ (calls.map .traced) (Traced.wait wait)).view
        Traced.env = endAfter config link network calls wait := by
  unfold endAfter
  rw [← sendAll_traced config link network calls]
  exact link.traced_mirrors.finish config _ _

/-- The order on the wire. Whatever metrics are sent, however the environment changes between the
calls, and however connecting, writing, draining and closing fail, the connections made so far carry
blocks of the accepted metrics, in order of acceptance: each frame once and by a single write, and
none again on a later connection, but for the one on which a connection broke. What lies between the
blocks of two successive connections is among the metrics that are counted as dropped. While there
is a connection, nothing waits. The end keeps all this. A failure of a write or a drain must be one
that the delivery deals with, as after any other it keeps the connection and writes the frame on it
again. -/
theorem wire_order (config : Config τ) (breaking : link.Breaking) (network : ω)
    (calls : List (Sending ω)) (wait : ω → ω) :
    let accepted := calls.map (·.metric)
    let sent := sendAll config link.traced ⟨network, []⟩ (calls.map .traced)
    let ended := endAfter config link.traced ⟨network, []⟩ (calls.map .traced) (Traced.wait wait)
    (sent.map id Traced.env = sendAll config link network calls ∧
        ended.view Traced.env = endAfter config link network calls wait) ∧
      ∃ fates blocks, Carried accepted fates blocks sent.1 sent.2.connections ∧
        sent.1.backlog = accepted.drop fates.length ∧ sent.1.Idle ∧
        ∃ more blocks, Carried accepted (fates ++ more) blocks ended.delivery
          ended.link.connections ∧ ended.delivery.Idle := by
  obtain ⟨fates, blocks, rests⟩ := rests_sendAll config breaking network calls
  exact ⟨⟨sendAll_traced config link network calls, endAfter_traced config link network calls wait⟩,
    fates, blocks, rests.toCarried, rests.waiting, rests.idle,
    Rests.finish breaking (t := Traced.wait wait _) rests⟩

end Calls

section Eviction

/-- Two metrics, with nothing in between. -/
def visitors : List (Sending (List Bool)) := [⟨id, climber⟩, ⟨id, lander⟩]

/-- A network that fails at its third answer, the drain of the first metric. -/
def lapsing : List Bool := [true, true, false, true, true, true, true, true, true]

theorem answers_breaking : answers.Breaking := ⟨answers_handled.write, answers_handled.drain⟩

/-- The first connection breaks on the first metric, which the second takes the place of. So the
second connection, made at the end, begins behind it. -/
theorem wire_order_eviction :
    let ended := endAfter narrow answers.traced ⟨lapsing, []⟩ (visitors.map .traced)
      (Traced.wait id)
    ended.link.connections =
        [⟨[Frame.encode lander], false⟩, ⟨[Frame.encode climber], true⟩] ∧
      ∃ fates blocks, Carried [climber, lander] fates blocks ended.delivery
        ended.link.connections ∧ fates.count .sent = 1 ∧ fates.count .dropped = 1 := by
  intro ended
  obtain ⟨-, fates, blocks, -, -, -, more, blocks', carried, -⟩ :=
    wire_order narrow answers_breaking lapsing visitors id
  refine ⟨rfl, fates ++ more, blocks', carried, ?_, ?_⟩
  · rw [← carried.sent]
    rfl
  · rw [← carried.dropped]
    rfl

end Eviction

end FlightStream.Graphite
