import SceneEditor.Proofs.Link.Survival

namespace SceneEditor

/-!
# What an attempt to connect comes to

An attempt opens a socket, greets the server, waits for its answer and subscribes.  It succeeds
exactly if the socket opens in time, both frames are sent, and the first message that is no
heart-beat says that the link is connected.  Otherwise nothing was subscribed to, the socket is
closed and forgotten, and what is published afterwards is dropped.

There is one exception.  Whether the address can be read shows only when the socket is open, and
the failure of an address that cannot is none of those that a link is made for: it escapes, and the
socket stays open.
-/

open List

namespace HandshakeItem

/-- After any number of heart-beats comes the message that says that the link is connected. -/
def Welcome (items : List HandshakeItem) : Prop :=
  ∃ (beats : List Message) (message : Message) (frame : Frame) (rest : List HandshakeItem),
    items = beats.map HandshakeItem.message ++ .message message :: rest
      ∧ (∀ beat ∈ beats, Frame.decode? beat = .ok none)
      ∧ Frame.decode? message = .ok (some frame)
      ∧ frame.command = "CONNECTED"

/-- A server that says nothing does not welcome. -/
theorem not_welcome_nil : ¬Welcome [] := by
  rintro ⟨beats, message, frame, rest, items, -⟩
  simp at items

/-- A fault is no welcome. -/
theorem not_welcome_fault
    (fault : Fault)
    (rest : List HandshakeItem) :
    ¬Welcome (.fault fault :: rest) := by
  rintro ⟨beats, message, frame, rest, items, -⟩
  cases beats <;> simp at items

/-- A welcome begins with the message itself, or with a heart-beat before it. -/
theorem welcome_cons_iff
    {message : Message}
    {rest : List HandshakeItem} :
    Welcome (.message message :: rest) ↔
      (∃ frame, Frame.decode? message = .ok (some frame) ∧ frame.command = "CONNECTED")
        ∨ Frame.decode? message = .ok none ∧ Welcome rest := by
  constructor
  · rintro ⟨beats, answer, frame, later, items, silent, decoded, connected⟩
    cases beats with
    | nil =>
        obtain ⟨same, -⟩ := List.cons.inj items
        obtain rfl := HandshakeItem.message.inj same
        exact .inl ⟨frame, decoded, connected⟩
    | cons beat beats =>
        obtain ⟨same, restSame⟩ := List.cons.inj items
        obtain rfl := HandshakeItem.message.inj same
        obtain ⟨isBeat, areBeats⟩ := List.forall_mem_cons.mp silent
        exact .inr ⟨isBeat, beats, answer, frame, later, restSame, areBeats, decoded, connected⟩
  · rintro (⟨frame, decoded, connected⟩ |
      ⟨isBeat, beats, answer, frame, later, rfl, areBeats, answers⟩)
    · exact ⟨[], message, frame, rest, rfl, by simp, decoded, connected⟩
    · exact ⟨message :: beats, answer, frame, later, rfl,
        List.forall_mem_cons.mpr ⟨isBeat, areBeats⟩, answers⟩

end HandshakeItem

open HandshakeItem (Welcome)

namespace Socket

/-- The next sends go through, as many as are counted. -/
def carries (socket : Socket) (count : Nat) : Bool :=
  socket.failingSend?.all fun failing => failing = 0 || count < failing

/-- How many sends a socket carries does not depend on what will be received. -/
theorem carries_handshake
    (socket : Socket)
    (handshake : List HandshakeItem)
    (count : Nat) :
    carries { socket with handshake } count = socket.carries count :=
  rfl

/-- The socket after a send that went through. -/
def counted (socket : Socket) : Socket :=
  { socket with failingSend? := socket.failingSend?.map (· - 1) }

/-- A socket that carried a send carries one less. -/
theorem carries_counted
    {socket : Socket}
    (carried : socket.carries 1 = true)
    (count : Nat) :
    socket.counted.carries count = socket.carries (count + 1) := by
  revert carried
  unfold carries counted
  cases socket.failingSend? with
  | none =>
      exact fun _ => rfl
  | some failing =>
      intro carried
      rw [Bool.eq_iff_iff]
      simp only [Option.all_some, Option.map_some, Bool.or_eq_true, decide_eq_true_eq] at carried ⊢
      omega

/-- The server welcomes the client on the socket, which carries both frames of the client. -/
def IsWelcoming (socket : Socket) : Prop :=
  socket.carries 2 = true ∧ Welcome socket.handshake

/-- Why one of the next sends fails, if one of so many does. -/
def unsent? (socket : Socket) (count : Nat) : Option LinkFailure :=
  if socket.carries count then none else some (.fault .closed)

/-- A failed send is expected. -/
theorem isExpected_of_unsent?
    {socket : Socket}
    {count : Nat}
    {failure : LinkFailure}
    (failed : socket.unsent? count = some failure) :
    failure.isExpected = true := by
  unfold unsent? at failed
  split at failed
  · exact nomatch failed
  · obtain rfl := Option.some.inj failed
    rfl

/-- Why the handshake on a socket fails, if it does. -/
def refusal? (socket : Socket) : Option LinkFailure :=
  (socket.unsent? 1).or ((Link.awaitConnected socket.handshake).2.or (socket.unsent? 2))

end Socket

namespace Link

/-- The server has agreed exactly with a CONNECTED frame. -/
theorem judge_eq_true_iff
    {message : Message} :
    judge message = .ok true ↔
      ∃ frame, Frame.decode? message = .ok (some frame) ∧ frame.command = "CONNECTED" := by
  unfold judge
  split
  · next broken => simp [broken]
  · next silent => simp [silent]
  · next frame decoded =>
    simp only [decoded, Except.ok.injEq, Option.some.injEq, exists_eq_left']
    split
    · next connected => simp [connected]
    · next other => split <;> simp [other]

/-- Only a heartbeat is passed over. -/
theorem judge_eq_false_iff
    {message : Message} :
    judge message = .ok false ↔ Frame.decode? message = .ok none := by
  unfold judge
  split
  · next broken => simp [broken]
  · next silent => simp [silent]
  · next frame decoded =>
    simp only [decoded]
    split
    · simp
    · split <;> simp

/-- Waiting for the agreement succeeds exactly at a welcome. -/
theorem awaitConnected_eq_none_iff
    {items : List HandshakeItem} :
    (awaitConnected items).2 = none ↔ Welcome items := by
  induction items with
  | nil =>
      simp [awaitConnected, HandshakeItem.not_welcome_nil]
  | cons item rest inductionHypothesis =>
      cases item with
      | fault fault =>
          simp [awaitConnected, HandshakeItem.not_welcome_fault]
      | message message =>
          rw [HandshakeItem.welcome_cons_iff, ← judge_eq_true_iff, ← judge_eq_false_iff,
            awaitConnected]
          cases judged : judge message with
          | error failure =>
              simp
          | ok answered =>
              cases answered <;> simp [inductionHypothesis]

/-- If whatever is received is expected, so is the reason for which the answer fails to come. -/
theorem isExpected_of_awaitConnected
    {items : List HandshakeItem}
    {failure : LinkFailure}
    (foreseen : items.all HandshakeItem.isExpected = true)
    (failed : (awaitConnected items).2 = some failure) :
    failure.isExpected = true := by
  induction items with
  | nil =>
      obtain rfl := Option.some.inj failed
      rfl
  | cons item rest inductionHypothesis =>
      rw [List.all_cons, Bool.and_eq_true] at foreseen
      cases item with
      | fault fault =>
          obtain rfl := Option.some.inj failed
          cases fault <;> simp_all [HandshakeItem.isExpected, LinkFailure.isExpected]
      | message message =>
          rw [awaitConnected] at failed
          cases judged : judge message with
          | error reason =>
              rw [judged] at failed
              obtain rfl := Option.some.inj failed
              exact isExpected_of_judge judged
          | ok answered =>
              rw [judged] at failed
              cases answered with
              | true => exact absurd failed (by simp)
              | false => exact inductionHypothesis foreseen.2 failed

end Link

/-- A socket refuses nothing exactly if it is welcoming. -/
theorem Socket.refusal?_eq_none_iff
    {socket : Socket} :
    socket.refusal? = none ↔ socket.IsWelcoming := by
  have fewer : socket.carries 2 = true → socket.carries 1 = true := by
    unfold carries
    cases socket.failingSend? with
    | none => exact id
    | some failing =>
        simp only [Option.all_some, Bool.or_eq_true, decide_eq_true_eq]
        omega
  have sent (count : Nat) : socket.unsent? count = none ↔ socket.carries count = true := by
    simp [unsent?]
  simp only [refusal?, IsWelcoming, Option.or_eq_none_iff, sent, Link.awaitConnected_eq_none_iff]
  constructor
  · rintro ⟨-, welcome, second⟩
    exact ⟨second, welcome⟩
  · rintro ⟨second, welcome⟩
    exact ⟨fewer second, welcome, second⟩

/-- A socket with foreseen faults only refuses in an expected way. -/
theorem Socket.isExpected_of_refusal?
    {socket : Socket}
    {failure : LinkFailure}
    (foreseen : socket.handshake.all HandshakeItem.isExpected = true)
    (refused : socket.refusal? = some failure) :
    failure.isExpected = true := by
  rcases Option.or_eq_some_iff.mp refused with failed | ⟨-, failed⟩
  · exact isExpected_of_unsent? failed
  · rcases Option.or_eq_some_iff.mp failed with failed | ⟨-, failed⟩
    · exact Link.isExpected_of_awaitConnected foreseen failed
    · exact isExpected_of_unsent? failed

/-!
## What is written and left behind
-/

/-- The frame that was written. -/
def LinkEvent.frame? : LinkEvent → Option Frame
  | .wrote frame => some frame
  | _ => none

/-- The frames that were written, in order. -/
def LinkEvent.frames (events : List LinkEvent) : List Frame :=
  events.filterMap LinkEvent.frame?

/-- The frames of a longer trace are those of its parts, one behind the other. -/
theorem LinkEvent.frames_append
    (events later : List LinkEvent) :
    frames (events ++ later) = frames events ++ frames later :=
  List.filterMap_append

namespace Link

variable {link : Link} {socket : Socket}

/-- A send that the socket carries is counted and traced. -/
theorem write_carried
    (present : link.socket? = some socket)
    (carried : socket.carries 1 = true)
    (frame : Frame) :
    link.write frame =
      ({ link with socket? := some socket.counted, trace := link.trace ++ [.wrote frame] },
        none) := by
  unfold write
  rw [present]
  dsimp only
  split
  · next failing =>
    simp [Socket.carries, failing] at carried
  · rfl

/-- A send that the socket does not carry fails, once. -/
theorem write_uncarried
    (present : link.socket? = some socket)
    (uncarried : socket.carries 1 = false)
    (frame : Frame) :
    link.write frame =
      ({ link with socket? := some { socket with failingSend? := none } },
        some (.fault .closed)) := by
  have failing : socket.failingSend? = some 1 := by
    unfold Socket.carries at uncarried
    cases failing : socket.failingSend? with
    | none =>
        simp [failing] at uncarried
    | some failing =>
        simp only [*, Option.all_some, Bool.or_eq_false_iff, decide_eq_false_iff_not] at uncarried
        exact congrArg some (by omega)
  unfold write
  rw [present]
  simp only [failing]

/-- Waiting for the agreement uses up what was received. -/
theorem receiveConnected_eq
    (present : link.socket? = some socket) :
    link.receiveConnected =
      ({ link with
          socket? := some { socket with handshake := (awaitConnected socket.handshake).1 } },
        (awaitConnected socket.handshake).2) := by
  unfold receiveConnected
  rw [present]

/-- The frame that begins a handshake with a host. -/
def greeting (host : String) : Frame :=
  .connect (if host.isEmpty then "localhost" else host) 0

/-- The frame that ends a handshake. -/
def subscribing (link : Link) : Frame :=
  .subscribe link.settings.worldTopic link.subscription

/-- What a handshake on a socket comes to: it writes, and it fails or does not. -/
inductive Greets (link : Link) (socket : Socket) (host : String) : Link × Option LinkFailure → Prop
  | welcomed {left : Socket}
      (agreed : socket.refusal? = none) :
      Greets link socket host
        ({ link with
            socket? := some left
            trace := link.trace ++ [.wrote (greeting host), .wrote link.subscribing] },
          none)
  | refused {left : Socket} {failure : LinkFailure} {events : List LinkEvent}
      (refused : socket.refusal? = some failure)
      (unsubscribed : events <+: [.wrote (greeting host)]) :
      Greets link socket host
        ({ link with socket? := some left, trace := link.trace ++ events }, some failure)

/-- The answer is waited for on a socket that carried the greeting, and then the link subscribes. -/
theorem shakeHands_eq
    {host : String}
    (found : Address.host link.settings.url = .ok host) :
    link.shakeHands =
      match link.write (greeting host) with
      | (greeted, some failure) => (greeted, some failure)
      | (greeted, none) => Schedule.andSubscribe greeted.receiveConnected := by
  unfold shakeHands
  rw [found]
  simp only [greeting]
  cases link.write (.connect (if host.isEmpty then "localhost" else host) 0) with
  | mk greeted failure? =>
      cases failure? with
      | some failure =>
          rfl
      | none =>
          cases received : greeted.receiveConnected with
          | mk answered failure? =>
              cases failure? <;> simp only [received, Schedule.andSubscribe]

/-- A handshake with an address that can be read sends the greeting and then waits. -/
theorem shakeHands_greets
    {host : String}
    (present : link.socket? = some socket)
    (found : Address.host link.settings.url = .ok host) :
    Greets link socket host link.shakeHands := by
  -- The stages of the handshake in their order: each ends it, or leaves a socket to the next.
  rw [shakeHands_eq found]
  cases first : socket.carries 1 with
  | false =>
      have refused : socket.refusal? = some (.fault .closed) := by
        rw [Socket.refusal?, Socket.unsent?, first]
        rfl
      rw [write_uncarried present first]
      have unwritten (left : Socket) :=
        @Greets.refused link socket host left _ [] refused List.nil_prefix
      simp only [List.append_nil] at unwritten
      exact unwritten _
  | true =>
      rw [write_carried present first]
      dsimp only
      rw [receiveConnected_eq rfl]
      cases answered : (awaitConnected socket.handshake).2 with
      | some failure =>
          have refused : socket.refusal? = some failure := by
            rw [Socket.refusal?, Socket.unsent?, first, answered]
            rfl
          have sameAnswer : (awaitConnected socket.counted.handshake).2 = some failure := answered
          rw [sameAnswer]
          exact .refused refused (List.prefix_refl _)
      | none =>
          have sameAnswer : (awaitConnected socket.counted.handshake).2 = none := answered
          rw [sameAnswer]
          dsimp only [Schedule.andSubscribe]
          have left (handshake : List HandshakeItem) :
              Socket.carries { socket.counted with handshake } 1 = socket.carries 2 := by
            rw [Socket.carries_handshake, Socket.carries_counted first]
          cases second : socket.carries 2 with
          | false =>
              have refused : socket.refusal? = some (.fault .closed) := by
                rw [Socket.refusal?, Socket.unsent?, Socket.unsent?, first, answered, second]
                rfl
              rw [write_uncarried rfl ((left _).trans second)]
              exact .refused refused (List.prefix_refl _)
          | true =>
              have agreed : socket.refusal? = none := by
                rw [Socket.refusal?, Socket.unsent?, Socket.unsent?, first, answered, second]
                rfl
              rw [write_carried rfl ((left _).trans second)]
              dsimp only
              rw [List.append_assoc]
              exact .welcomed agreed

end Link

/-!
## The attempt
-/

namespace Attempt

/-- The socket opens. -/
def isOpened : Attempt → Bool
  | .opened _ => true
  | .fault _ => false

/-- Why an attempt fails, if it does. -/
def refusal? (settings : ServerSettings) : Attempt → Option LinkFailure
  | .fault cause => some (.fault cause)
  | .opened socket =>
      match Address.host settings.url with
      | .error error => some (.badAddress error)
      | .ok _ => socket.refusal?

end Attempt

namespace Link

variable {link : Link}

/-- The next attempt gets a socket. -/
def opens (link : Link) : Bool :=
  !link.settings.connectTimeout.le 0 && link.attempts.head?.any Attempt.isOpened

/-- The next attempt gets a socket in time, and the server welcomes the client on it. -/
def IsWelcomed (link : Link) : Prop :=
  link.settings.connectTimeout.le 0 = false
    ∧ ∃ socket attempts, link.attempts = .opened socket :: attempts ∧ socket.IsWelcoming

/-- Why the next attempt fails, if it does. -/
def refusal? (link : Link) : Option LinkFailure :=
  if link.settings.connectTimeout.le 0 then some (.fault .timeout)
  else
    match link.attempts with
    | [] => some (.fault .refused)
    | attempt :: _ => attempt.refusal? link.settings

/-- An attempt with a readable address is refused by nothing exactly if the link is welcomed. -/
theorem refusal?_eq_none_iff
    (readable : link.opens = true → (Address.host? link.settings.url).isSome = true) :
    link.refusal? = none ↔ link.IsWelcomed := by
  unfold opens at readable
  unfold refusal? IsWelcomed
  cases late : link.settings.connectTimeout.le 0 with
  | true =>
      simp
  | false =>
      cases used : link.attempts with
      | nil =>
          simp
      | cons attempt attempts =>
          cases attempt with
          | fault fault =>
              simp [Attempt.refusal?]
          | opened socket =>
              rw [late, used] at readable
              obtain ⟨host, found⟩ := Address.host?_isSome_iff.mp (readable rfl)
              simp [Attempt.refusal?, found, Socket.refusal?_eq_none_iff]

/-- An open socket with an unreadable address refuses with what is wrong with the address. -/
theorem refusal?_of_unread
    (opens : link.opens = true)
    {error : AddressError}
    (unread : Address.host link.settings.url = .error error) :
    link.refusal? = some (.badAddress error) := by
  obtain ⟨inTime, opened⟩ := Bool.and_eq_true_iff.mp opens
  unfold refusal?
  rw [if_neg (by simpa using inTime)]
  cases used : link.attempts with
  | nil =>
      simp [used] at opened
  | cons attempt attempts =>
      cases attempt with
      | fault fault =>
          simp [used, Attempt.isOpened] at opened
      | opened socket =>
          simp [Attempt.refusal?, unread]

/-- If the next attempt fails, it fails in a way that a link is made for. -/
theorem isExpected_of_refusal?
    (foreseen : ∀ attempt ∈ link.attempts.head?, attempt.isExpected = true)
    (readable : link.opens = true → (Address.host? link.settings.url).isSome = true)
    {failure : LinkFailure}
    (refused : link.refusal? = some failure) :
    failure.isExpected = true := by
  unfold opens at readable
  unfold refusal? at refused
  cases late : link.settings.connectTimeout.le 0 with
  | true =>
      rw [late] at refused
      obtain rfl := Option.some.inj refused
      rfl
  | false =>
      rw [late] at refused readable
      cases used : link.attempts with
      | nil =>
          rw [used] at refused
          obtain rfl := Option.some.inj refused
          rfl
      | cons attempt attempts =>
          rw [used] at refused readable foreseen
          have expected := foreseen attempt rfl
          cases attempt with
          | fault fault =>
              obtain rfl := Option.some.inj refused
              cases fault <;> simp_all [Attempt.isExpected, LinkFailure.isExpected]
          | opened socket =>
              obtain ⟨host, found⟩ := Address.host?_isSome_iff.mp (readable rfl)
              have refused : socket.refusal? = some failure := by
                simpa [Attempt.refusal?, found] using refused
              exact Socket.isExpected_of_refusal? expected refused

/-- What an attempt comes to, whether it leaves a socket, and what it wrote. -/
structure Tries
    (link : Link)
    (refusal? : Option LinkFailure)
    (present : Bool)
    (result : Link × Option LinkFailure) : Prop where
  failure : result.2 = refusal?
  present : result.1.socket?.isSome = present
  tells :
    ∃ events,
      result.1.trace = link.trace ++ events
        ∧ .closed ∉ events
        ∧ (refusal? = none →
          ∃ host,
            Address.host link.settings.url = .ok host
              ∧ LinkEvent.frames events = [greeting host, link.subscribing])
        ∧ (refusal? ≠ none → ∀ frame ∈ LinkEvent.frames events, frame.command = "CONNECT")

/-- An attempt that fails before anything is written. -/
theorem Tries.silent
    {later : Link}
    {failure : LinkFailure}
    (events : List LinkEvent)
    (trace : later.trace = link.trace ++ events)
    (noClose : .closed ∉ events)
    (noFrame : LinkEvent.frames events = []) :
    Tries link (some failure) later.socket?.isSome (later, some failure) :=
  ⟨rfl, rfl, events, trace, noClose, nofun, by simp [noFrame]⟩

/-- A handshake comes to what the socket refuses. -/
theorem shakeHands_tries
    {socket : Socket}
    (present : link.socket? = some socket) :
    Tries link ((Attempt.opened socket).refusal? link.settings) true link.shakeHands := by
  cases found : Address.host link.settings.url with
  | error error =>
      have escapes : link.shakeHands = (link, some (.badAddress error)) := by
        unfold shakeHands
        rw [found]
      have refused :
          (Attempt.opened socket).refusal? link.settings = some (.badAddress error) := by
        simp [Attempt.refusal?, found]
      have silent :
          Tries link (some (.badAddress error)) link.socket?.isSome
            (link, some (.badAddress error)) :=
        .silent [] (by simp) (by simp) rfl
      rwa [escapes, refused, ← show link.socket?.isSome = true by rw [present]; rfl]
  | ok host =>
      have same : (Attempt.opened socket).refusal? link.settings = socket.refusal? := by
        simp [Attempt.refusal?, found]
      have greets := shakeHands_greets present found
      rw [same]
      generalize link.shakeHands = result at greets ⊢
      cases greets with
      | welcomed agreed =>
          refine ⟨agreed.symm, rfl, _, rfl, by simp, fun _ => ⟨host, found, rfl⟩, ?_⟩
          exact fun refused => absurd agreed refused
      | refused refused unsubscribed =>
          refine ⟨refused.symm, rfl, _, rfl, ?_, ?_, ?_⟩
          · intro closes
            simpa using unsubscribed.subset closes
          · intro agreed
            exact nomatch refused.symm.trans agreed
          · intro _ frame written
            obtain ⟨event, isEvent, isFrame⟩ := List.mem_filterMap.mp written
            obtain rfl := List.mem_singleton.mp (unsubscribed.subset isEvent)
            obtain rfl := Option.some.inj isFrame
            rfl

/-- The call of a socket is told before the handshake on it. -/
theorem Tries.of_called
    {between : Link}
    {refusal? : Option LinkFailure}
    {present : Bool}
    {result : Link × Option LinkFailure}
    (tries : Tries between refusal? present result)
    (settings : between.settings = link.settings)
    (subscription : between.subscription = link.subscription)
    (trace : between.trace = link.trace ++ [.called url heartbeat]) :
    Tries link refusal? present result := by
  obtain ⟨failure, present, events, told, noClose, welcomed, refused⟩ := tries
  refine ⟨failure, present, .called url heartbeat :: events, ?_, by simpa using noClose, ?_, ?_⟩
  · rw [told, trace, List.append_assoc]
    rfl
  · rw [settings] at welcomed
    have same : between.subscribing = link.subscribing := by
      rw [subscribing, subscribing, settings, subscription]
    exact same ▸ welcomed
  · exact refused

/-- An attempt comes to what the link refuses. -/
theorem establish_tries
    (link : Link) :
    Tries link link.refusal? (link.opens || link.socket?.isSome) link.establish := by
  unfold establish openSocket refusal? opens
  cases late : link.settings.connectTimeout.le 0 with
  | true =>
      exact .silent [] (by simp) (by simp) rfl
  | false =>
      let called := link.record (.called link.settings.url link.settings.heartbeatInterval)
      have told :
          called.trace =
            link.trace ++ [.called link.settings.url link.settings.heartbeatInterval] :=
        rfl
      simp only [Bool.false_eq_true, if_false]
      cases link.attempts with
      | nil =>
          exact .silent _ told (by simp) rfl
      | cons attempt attempts =>
          cases attempt with
          | fault fault =>
              have stillTold : { called with attempts }.trace = link.trace ++ [.called _ _] := told
              exact .silent _ stillTold (by simp) rfl
          | opened socket =>
              have shaken :
                  Tries { called with attempts, socket? := some socket }
                    ((Attempt.opened socket).refusal? link.settings) true
                    { called with attempts, socket? := some socket }.shakeHands :=
                shakeHands_tries rfl
              exact shaken.of_called rfl rfl told

/-!
## Connecting
-/

/-- The link is connected, it wrote the two frames of the handshake, and no failure counts. -/
structure Connects (link later : Link) (events : List LinkEvent) : Prop where
  written :
    ∃ host,
      Address.host link.settings.url = .ok host
        ∧ LinkEvent.frames events = [greeting host, link.subscribing]
  state : later.state = .connected
  connected : later.isConnected = true
  failures : later.failures = 0

/-- Nothing was subscribed to, the socket was closed if there was one, and texts are dropped. -/
structure Withdraws (link later : Link) (events : List LinkEvent) : Prop where
  unsubscribed : ∀ frame ∈ LinkEvent.frames events, frame.command = "CONNECT"
  closed : events.count .closed = (link.opens || link.socket?.isSome).toNat
  forgotten : later.socket? = none
  state : later.state = .disconnected
  drops : ∀ text, (later.publish text).2 = false ∧ (later.publish text).1.queue = later.queue

/-- A disconnected link drops texts. -/
theorem drops_of_disconnected
    (state : link.state = .disconnected)
    (text : String) :
    (link.publish text).2 = false ∧ (link.publish text).1.queue = link.queue := by
  have apart : link.isConnected = false := by
    rw [isConnected, state]
    rfl
  unfold publish
  rw [apart]
  exact ⟨rfl, rfl⟩

/-- An attempt that nothing refuses connects. -/
theorem connect_of_agreed
    (apart : link.isConnected = false)
    (agreed : link.refusal? = none) :
    ∃ events,
      link.connect.2 = .ok true
        ∧ link.connect.1.trace = link.trace ++ events
        ∧ Connects link link.connect.1 events := by
  have tries := establish_tries { link with state := .connecting }
  unfold connect
  rw [if_neg (by simp [apart])]
  cases outcome : establish { link with state := .connecting } with
  | mk later failure? =>
      rw [outcome] at tries
      obtain ⟨failure, present, events, told, noClose, welcomed, -⟩ := tries
      obtain rfl : failure? = none := failure.trans agreed
      obtain ⟨host, found, written⟩ := welcomed agreed
      exact ⟨events, rfl, told, ⟨host, found, written⟩, rfl,
        (establishes outcome).present rfl, rfl⟩

/-- The last thing that a link tells of a socket is that it closed it. -/
theorem closeSocket_trace
    (link : Link) :
    link.closeSocket.trace = link.trace ++ List.replicate link.socket?.isSome.toNat .closed := by
  unfold closeSocket
  split
  · next missing =>
    simp [missing]
  · next present =>
    simp [present, record]

/-- An attempt with an expected refusal is undone. -/
theorem connect_of_refused
    (apart : link.isConnected = false)
    {failure : LinkFailure}
    (refused : link.refusal? = some failure)
    (expected : failure.isExpected = true) :
    ∃ events,
      link.connect.2 = .ok false
        ∧ link.connect.1.trace = link.trace ++ events
        ∧ Withdraws link link.connect.1 events := by
  have tries := establish_tries { link with state := .connecting }
  unfold connect
  rw [if_neg (by simp [apart])]
  cases outcome : establish { link with state := .connecting } with
  | mk later failure? =>
      rw [outcome] at tries
      obtain ⟨failed, present, events, told, noClose, -, unsubscribed⟩ := tries
      obtain rfl : failure? = some failure := failed.trans refused
      replace present : later.socket?.isSome = (link.opens || link.socket?.isSome) := present
      replace told : later.trace = link.trace ++ events := told
      have refuses : { link with state := .connecting }.refusal? = some failure := refused
      have greeted := unsubscribed (by simp [refuses])
      dsimp only
      rw [if_pos expected]
      have closed := closeSocket_trace (later.noteFailure failure)
      let farewell : List LinkEvent :=
        .noted ⟨.error, "Failed to connect to server: " ++ failure.message⟩
          :: List.replicate later.socket?.isSome.toNat .closed
      have silent : LinkEvent.frames farewell = [] := by
        refine List.filterMap_eq_nil_iff.mpr fun event member => ?_
        rcases List.mem_cons.mp member with rfl | closes
        · rfl
        · rw [List.eq_of_mem_replicate closes]
          rfl
      refine ⟨events ++ farewell, rfl, ?_, ?_⟩
      · refine closed.trans ?_
        simp [farewell, noteFailure, note, record, told]
      · refine ⟨?_, ?_, closeSocket_socket? _, rfl, drops_of_disconnected rfl⟩
        · intro frame written
          rw [LinkEvent.frames_append, silent, List.append_nil] at written
          exact greeted frame written
        · rw [List.count_append, List.count_eq_zero_of_not_mem noClose]
          simp [farewell, present]

/-- An attempt with an unexpected refusal raises it and leaves the socket as it is. -/
theorem connect_of_escaped
    (apart : link.isConnected = false)
    {failure : LinkFailure}
    (refused : link.refusal? = some failure)
    (unexpected : failure.isExpected = false) :
    link.connect.2 = .error failure
      ∧ link.connect.1.socket?.isSome = (link.opens || link.socket?.isSome) := by
  have tries := establish_tries { link with state := .connecting }
  unfold connect
  rw [if_neg (by simp [apart])]
  cases outcome : establish { link with state := .connecting } with
  | mk later failure? =>
      rw [outcome] at tries
      obtain rfl : failure? = some failure := tries.failure.trans refused
      dsimp only
      rw [if_neg (by simp [unexpected])]
      exact ⟨rfl, tries.present⟩

/--
What a link that is not connected comes to, if an attempt fails only in ways that it is made for: it
connects or it withdraws.  A link that is connected is left as it is, and an address that cannot be
read leaves a socket behind.
-/
theorem connect_settles
    (link : Link) :
    (link.isConnected = true → link.connect = (link, .ok true))
      ∧ (link.isConnected = false →
        (∀ attempt ∈ link.attempts.head?, attempt.isExpected = true) →
          (link.opens = true → (Address.host? link.settings.url).isSome = true) →
            ∃ connects events,
              link.connect.2 = .ok connects
                ∧ link.connect.1.trace = link.trace ++ events
                ∧ (connects = true ↔ link.IsWelcomed)
                ∧ (connects = true → Connects link link.connect.1 events)
                ∧ (connects = false → Withdraws link link.connect.1 events))
      ∧ (link.isConnected = false →
        link.opens = true →
          ∀ error, Address.host link.settings.url = .error error →
            link.connect.2 = .error (.badAddress error)
              ∧ link.connect.1.socket?.isSome = true) := by
  refine ⟨fun connected => ?_, fun apart foreseen readable => ?_, fun apart opens _ unread => ?_⟩
  · unfold connect
    rw [if_pos connected]
  · have welcomed := refusal?_eq_none_iff readable
    cases refused : link.refusal? with
    | none =>
        obtain ⟨events, answer, told, connects⟩ := connect_of_agreed apart refused
        exact ⟨true, events, answer, told, ⟨fun _ => welcomed.mp refused, fun _ => rfl⟩,
          fun _ => connects, nofun⟩
    | some failure =>
        have expected := isExpected_of_refusal? foreseen readable refused
        have unwelcome : ¬link.IsWelcomed := fun agreed =>
          nomatch refused.symm.trans (welcomed.mpr agreed)
        obtain ⟨events, answer, told, withdraws⟩ := connect_of_refused apart refused expected
        exact ⟨false, events, answer, told, ⟨nofun, fun agreed => absurd agreed unwelcome⟩, nofun,
          fun _ => withdraws⟩
  · have refused := refusal?_of_unread opens unread
    obtain ⟨answer, present⟩ := connect_of_escaped apart refused rfl
    exact ⟨answer, present.trans (by simp [opens])⟩

/--
A link that is connected stays so, one that is not connects after a heartbeat, one that cannot
subscribe withdraws, and one with an address that cannot be read does neither: one bracket stands
alone, the brackets hold no address, or a character may be taken for a text with a slash in it.
-/
theorem connect_settles_fourWays :
    let greeted : HandshakeItem := .message (.text "CONNECTED\n\n\x00")
    let link (socket : Socket) : Link := .of {} [.opened socket]
    let held : Link := { link {} with state := .connected, socket? := some {} }
    let beaten := link { handshake := [.message (.text "\n"), greeted] }
    let muted := link { handshake := [greeted], failingSend? := some 2 }
    let unread (url : String) : Link := .of { url := url } [.opened { handshake := [greeted] }]
    held.connect = (held, .ok true)
      ∧ (beaten.connect.2 = .ok true ∧ beaten.connect.1.state = .connected)
      ∧ (muted.connect.2 = .ok false ∧ muted.connect.1.state = .disconnected)
      ∧ (unread "ws://[::1").connect.2 = .error (.badAddress .unpaired)
      ∧ (unread "ws://[abc]/x").connect.2 = .error (.badAddress (.noAddress "abc"))
      ∧ (unread "ws://℀.example/x").connect.2 =
        .error (.badAddress (.hiddenMark "℀.example")) := by
  intro greeted link held beaten muted unread
  have found : (Address.host? (link {}).settings.url).isSome = true := by decide +kernel
  have inTime : ({} : ServerSettings).connectTimeout.le 0 = false := by decide +kernel
  have opens (url : String) : (unread url).opens = true :=
    show (!({} : ServerSettings).connectTimeout.le 0 && true) = true by rw [inTime]; rfl
  have escapes (url : String) (error : AddressError)
      (unreadable : Address.error? (Address.authority url.toList) = some error) :
      (unread url).connect.2 = .error (.badAddress error) :=
    ((connect_settles (unread url)).2.2 rfl (opens url) error
      (Address.host_eq_error_iff.mpr unreadable)).1
  refine ⟨(connect_settles held).1 rfl, ?_, ?_, escapes _ _ (by decide +kernel),
    escapes _ _ (by decide +kernel), escapes _ _ (by decide +kernel)⟩
  · obtain ⟨connects, events, answer, -, -, connected, withdrawn⟩ :=
      (connect_settles beaten).2.1 rfl (by decide +kernel) fun _ => found
    cases connects with
    | true =>
        exact ⟨answer, (connected rfl).state⟩
    | false =>
        exact absurd (withdrawn rfl).state (by decide +kernel)
  · obtain ⟨connects, events, answer, -, -, connected, withdrawn⟩ :=
      (connect_settles muted).2.1 rfl (by decide +kernel) fun _ => found
    cases connects with
    | true =>
        exact absurd (connected rfl).state (by decide +kernel)
    | false =>
        exact ⟨answer, (withdrawn rfl).state⟩

/-- The server would welcome the client, but the client cannot read the address of the server. -/
theorem connect_leavesOpen :
    let link : Link := { Link.onSocket [] with settings := { url := "ws://[::1" } }
    link.isConnected = false
      ∧ (∀ attempt ∈ link.attempts, attempt.isExpected = true)
      ∧ link.connect.2 = .error (.badAddress .unpaired)
      ∧ link.connect.1.socket?.isSome = true
      ∧ link.connect.1.state = .connecting := by
  intro link
  have opens : link.opens = true := by decide +kernel
  have unread : Address.host link.settings.url = .error .unpaired :=
    Address.host_eq_error_iff.mpr (by decide +kernel)
  have refused := refusal?_of_unread opens unread
  obtain ⟨answer, present⟩ := connect_of_escaped rfl refused rfl
  rw [opens, Bool.true_or] at present
  exact ⟨rfl, by decide +kernel, answer, present, by decide +kernel⟩

end Link

end SceneEditor
