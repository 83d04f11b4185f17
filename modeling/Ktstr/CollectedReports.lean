import Ktstr.Library.Runs
import Ktstr.Source.Collect

/-! Which finished reports the parent gets: those of children whose turn begins with a millisecond of the shared deadline left,
unless the ready byte is gone from the pipe and the report itself begins with such a byte. -/
namespace Ktstr.CollectedReports
open List Library.Runs Source.Collect ForkedChild Nat Function Option

/-! Decoding -/

section
variable {R ξ : Type} (format : Format R ξ)

/-- What is assumed of the codecs: they read back what they wrote, no report is empty, the binary form is the shortest that is
read as its report, and the textual form of a list begins with a bracket. -/
structure Codecs : Prop where
  one : ∀ report, format.decodeOne (format.encodeOne report) = some report
  all : ∀ reports, format.decodeAll (format.encodeAll reports) = some reports
  written : ∀ report, format.encodeOne report ≠ []
  shortest : ∀ bytes report, format.decodeOne bytes = some report → (format.encodeOne report).length ≤ bytes.length
  bracketed : ∀ reports, (format.encodeAll reports).head? = some 91
  empty : format.decodeAll [] = none

def Reads (child : ForkedChild R) (bytes : List UInt8) : Prop :=
  match child.kind with
  | .worker _ report => format.decodeOne bytes = some report
  | .pcommContainer container => format.decodeAll bytes = some container.reports

theorem decode_eq_iff {child : ForkedChild R} (buf : List UInt8) (info : ξ) :
    child.decode format buf info = .decoded child.reports ↔ Reads format child (stripReady buf) := by
  obtain ⟨pid,kind⟩ := child
  cases kind with
  | worker groupIdx report =>
    simp only [decode,reports,Reads]
    cases format.decodeOne (stripReady buf) with
    | none => simp
    | some other => simp
  | pcommContainer container =>
    simp only [decode,reports,Reads]
    cases format.decodeAll (stripReady buf) with
    | none => simp
    | some decoded =>
      simp only
      split_ifs with counted
      · simp
      · simp only [some.injEq,false_iff]
        intro same
        exact counted (same ▸ container.counted)

variable {format} (codecs : Codecs format)
include codecs

theorem reads_encoded {child : ForkedChild R} : Reads format child (child.encoded format) := by
  obtain ⟨pid,kind⟩ := child
  cases kind with
  | worker groupIdx report => exact codecs.one report
  | pcommContainer container => exact codecs.all container.reports

theorem encoded_ne_nil (child : ForkedChild R) : child.encoded format ≠ [] := by
  obtain ⟨pid,kind⟩ := child
  cases kind with
  | worker groupIdx report => exact codecs.written report
  | pcommContainer container =>
    intro empty
    have bracket := codecs.bracketed container.reports
    rw [show format.encodeAll container.reports = [] from empty] at bracket
    cases bracket

theorem not_reads_nil {child : ForkedChild R} : ¬ Reads format child [] := by
  obtain ⟨pid,kind⟩ := child
  cases kind with
  | worker groupIdx report =>
    intro reads
    exact codecs.written report (eq_nil_of_length_eq_zero (le_zero.mp (codecs.shortest [] report reads)))
  | pcommContainer container => simp [Reads,codecs.empty]

theorem not_reads_tail {child : ForkedChild R} {rest : List UInt8} (alike : child.encoded format = readyByte::rest) :
    ¬ Reads format child rest := by
  obtain ⟨pid,kind⟩ := child
  cases kind with
  | worker groupIdx report =>
    intro reads
    have short := codecs.shortest rest report reads
    rw [show format.encodeOne report = readyByte::rest from alike] at short
    exact absurd short (by simp)
  | pcommContainer container =>
    have bracket := codecs.bracketed container.reports
    rw [show format.encodeAll container.reports = readyByte::rest from alike] at bracket
    exact absurd (some.inj bracket) (by decide)

theorem reads_strip_iff {child : ForkedChild R} :
    Reads format child (stripReady (child.encoded format)) ↔ (child.encoded format).head? ≠ some readyByte := by
  cases bytes : child.encoded format with
  | nil => exact absurd bytes (encoded_ne_nil codecs child)
  | cons byte rest =>
    simp only [stripReady,head?_cons,ne_eq,some.injEq]
    split_ifs with ready
    · simp only [ready,not_true,iff_false]
      exact not_reads_tail codecs (ready ▸ bytes)
    · simp only [ready,not_false_eq_true,iff_true]
      exact bytes ▸ reads_encoded codecs

theorem decode_drop_iff {child : ForkedChild R} {taken : Nat} (few : taken ≤ 1) (info : ξ) :
    child.decode format ((child.stream format).drop taken) info = .decoded child.reports ↔
      taken = 0 ∨ (child.encoded format).head? ≠ some readyByte := by
  rw [decode_eq_iff]
  obtain rfl | rfl : taken = 0 ∨ taken = 1 := by omega
  · simp [stream,stripReady,reads_encoded codecs]
  · simp only [stream,drop_succ_cons,drop_zero,reads_strip_iff codecs,one_ne_zero,false_or]

end

/-! What a step can do -/

section
variable {R ξ : Type} (format : Format R ξ) (children : List (ForkedChild R))

/-- The parent goes from one phase to another and touches nothing else. -/
inductive Turns (state : State R) : Phase → Phase → Prop
  | drain : Turns state .starting (.draining 0)
  | skip : Turns state .starting .signalling
  | wait (deadline : Nat) : Turns state .starting (.barrier (List.range children.length) deadline)
  | poll (pending : List Nat) (deadline until_ : Nat) :
    Turns state (.barrier pending deadline) (.polling pending deadline until_)
  | pass (pending : List Nat) (deadline : Nat) : Turns state (.barrier pending deadline) .signalling
  | drained (next : Nat) : Turns state (.draining next) .signalling
  | signal (deadline : Nat) : Turns state .signalling (.collecting deadline)
  | finish (deadline : Nat) : Turns state (.collecting deadline) .finished
  | await (deadline until_ : Nat) (left : state.clock + nsPerMs ≤ deadline) :
    Turns state (.collecting deadline) (.awaiting deadline until_)
  | read (deadline until_ : Nat) : Turns state (.awaiting deadline until_) (.reading deadline [])

inductive Ends (state : State R) : Phase → Nat → List UInt8 → Prop
  | late (deadline : Nat) (out : deadline < state.clock + nsPerMs) : Ends state (.collecting deadline) deadline []
  | silent (deadline until_ : Nat) (unread : (state.pipes state.collected.length).readable = false) :
    Ends state (.awaiting deadline until_) deadline []
  | eof (deadline : Nat) (buf : List UInt8)
    (drained : (state.pipes state.collected.length).written ≤ (state.pipes state.collected.length).read)
    (closed : (state.pipes state.collected.length).closed = true) : Ends state (.reading deadline buf) deadline buf

inductive Move (state : State R) : Event ξ → State R → Prop
  | stays (event : Event ξ) : Move state event state
  | ticks (ns : Nat) : Move state (.tick ns) {state with clock := state.clock + ns}
  | writes (i : Nat) (running : (state.pipes i).closed = false)
    (more : (state.pipes i).written < (streamOf format children i).length) : Move state (.writes i)
      {state with pipes := Function.update state.pipes i {state.pipes i with written := (state.pipes i).written + 1}}
  | closes (i : Nat) : Move state (.closes i)
      {state with pipes := Function.update state.pipes i {state.pipes i with closed := true}}
  | turns (info : ξ) (phase : Phase) (turn : Turns children state state.phase phase) :
    Move state (.parent info) {state with phase := phase}
  | takes (info : ξ) (pending : List Nat) (deadline until_ : Nat) (at_ : state.phase = .polling pending deadline until_) :
    Move state (.parent info) (takeReady state pending deadline)
  | drains (info : ξ) (next : Nat) (at_ : state.phase = .draining next) : Move state (.parent info)
      {state with
        pipes := Function.update state.pipes next (state.pipes next).takeByte
        phase := .draining (next + 1)}
  | reads (info : ξ) (deadline : Nat) (buf : List UInt8) (at_ : state.phase = .reading deadline buf)
    (more : (state.pipes state.collected.length).read < (state.pipes state.collected.length).written) :
    Move state (.parent info)
      {state with
        pipes := Function.update state.pipes state.collected.length
          {state.pipes state.collected.length with read := (state.pipes state.collected.length).written}
        phase := .reading deadline (buf ++ ((streamOf format children state.collected.length).take
          (state.pipes state.collected.length).written).drop (state.pipes state.collected.length).read)}
  | ends (info : ξ) (deadline : Nat) (buf : List UInt8) (child : ForkedChild R)
    (turn : children[state.collected.length]? = some child) (ended : Ends state state.phase deadline buf) :
    Move state (.parent info)
      {state with
        pipes := Function.update state.pipes state.collected.length
          {state.pipes state.collected.length with closed := true}
        phase := .collecting deadline
        collected := state.collected ++ [child.decode format buf info]}

variable {format children}

theorem remainingMs_eq_zero_iff (state : State R) (deadline : Nat) :
    remainingMs state deadline = 0 ↔ deadline < state.clock + nsPerMs := by
  have few : (deadline - state.clock) / nsPerMs = 0 ↔ deadline < state.clock + nsPerMs := by
    simp only [nsPerMs]
    omega
  rw [remainingMs]
  simp only [i32Max]
  omega

theorem finishChild_moves (state : State R) (info : ξ) (deadline : Nat) (buf : List UInt8)
    (ended : Ends state state.phase deadline buf) :
    Move format children state (.parent info) (finishChild format children state deadline buf info) := by
  cases turn : children[state.collected.length]? with
  | none =>
    simp only [finishChild,turn]
    exact .stays _
  | some child =>
    simp only [finishChild,turn]
    exact .ends info deadline buf child turn ended

theorem parentStep_moves {wasStarted : Bool} {state : State R} {info : ξ} :
    Move format children state (.parent info) (parentStep format children wasStarted state info) := by
  have turns (phase : Phase) (turn : Turns children state state.phase phase) :
      Move format children state (.parent info) {state with phase := phase} := .turns info phase turn
  unfold parentStep
  cases at_ : state.phase with
  | starting =>
    rw [at_] at turns
    simp only
    split_ifs
    · exact turns _ .drain
    · exact turns _ .skip
    · exact turns _ (.wait _)
  | barrier pending deadline =>
    rw [at_] at turns
    simp only
    split_ifs
    · exact turns _ (.pass pending deadline)
    · exact turns _ (.poll pending deadline _)
  | polling pending deadline until_ =>
    simp only
    split_ifs
    · exact .takes info pending deadline until_ at_
    · exact .stays _
  | draining next =>
    rw [at_] at turns
    simp only
    split_ifs
    · exact turns _ (.drained next)
    · exact .drains info next at_
    · exact .stays _
  | signalling =>
    rw [at_] at turns
    exact turns _ (.signal _)
  | collecting deadline =>
    rw [at_] at turns
    simp only [remainingMs_eq_zero_iff]
    split_ifs with all out
    · exact turns _ (.finish deadline)
    · exact finishChild_moves state info deadline [] (at_ ▸ .late deadline out)
    · exact turns _ (.await deadline _ (Nat.le_of_not_lt out))
  | awaiting deadline until_ =>
    rw [at_] at turns
    simp only
    split_ifs with ready out
    · exact turns _ (.read deadline until_)
    · exact finishChild_moves state info deadline [] (at_ ▸ .silent deadline until_ (eq_false_of_ne_true ready))
    · exact .stays _
  | reading deadline buf =>
    simp only
    split_ifs with more closed
    · exact .reads info deadline buf at_ more
    · exact finishChild_moves state info deadline buf (at_ ▸ .eof deadline buf (Nat.le_of_not_lt more) closed)
    · exact .stays _
  | finished => exact .stays _

theorem step_moves (wasStarted : Bool) {state : State R} {event : Event ξ} :
    Move format children state event (step format children wasStarted state event) := by
  cases event with
  | tick ns => exact .ticks ns
  | writes i =>
    simp only [step,Bool.and_eq_true,Bool.not_eq_true',decide_eq_true_eq]
    split_ifs with can
    · exact .writes i can.1 can.2
    · exact .stays _
  | closes i => exact .closes i
  | parent info => exact parentStep_moves

/-! What every step keeps -/

def Untouched (i : Nat) : Phase → Prop
  | .starting => True
  | .barrier pending _ | .polling pending _ _ => i ∈ pending
  | .draining next => next ≤ i
  | _ => False

def Waiting (i : Nat) (state : State R) : Prop :=
  match state.phase with
  | .reading _ _ => state.collected.length < i
  | _ => state.collected.length ≤ i

variable (format children) in
structure Inv (state : State R) : Prop where
  read : ∀ i, (state.pipes i).read ≤ (state.pipes i).written
  written : ∀ i, (state.pipes i).written ≤ (streamOf format children i).length
  untouched : ∀ i, Untouched i state.phase → (state.pipes i).read = 0
  waiting : ∀ i, Waiting i state → (state.pipes i).read ≤ 1

variable {state next : State R} {event : Event ξ}

theorem takeByte_read_of_unreadable {pipe : Pipe} (unread : pipe.readable = false) :
    pipe.takeByte.read = pipe.read := by
  simp only [Pipe.readable,Bool.or_eq_false_iff,decide_eq_false_iff_not] at unread
  rw [Pipe.takeByte,if_neg unread.1]

theorem takeByte_read_le {pipe : Pipe} : pipe.takeByte.read ≤ pipe.read + 1 := by
  unfold Pipe.takeByte
  split_ifs
  · exact le_refl _
  · exact le_succ _

/-- What a step can do to a pipe that carries a stream of this length. -/
structure PipeStep (length : Nat) (before after : Pipe) : Prop where
  read : before.read ≤ before.written → after.read ≤ after.written
  written : before.written ≤ length → after.written ≤ length
  closed : before.closed = true → after.closed = true ∧ after.written = before.written

variable (length : Nat)

theorem PipeStep.same (pipe : Pipe) : PipeStep length pipe pipe := ⟨id,id,fun closed => ⟨closed,rfl⟩⟩

theorem PipeStep.closes (pipe : Pipe) : PipeStep length pipe {pipe with closed := true} :=
  ⟨id,id,fun _ => ⟨rfl,rfl⟩⟩

theorem PipeStep.takes (pipe : Pipe) : PipeStep length pipe pipe.takeByte := by
  unfold Pipe.takeByte
  split_ifs with more
  · exact ⟨fun _ => more,id,fun closed => ⟨closed,rfl⟩⟩
  · exact .same length pipe

theorem PipeStep.update (j : Nat) (pipe : Pipe) (here : PipeStep (streamOf format children j).length (state.pipes j) pipe)
    (i : Nat) : PipeStep (streamOf format children i).length (state.pipes i) (update state.pipes j pipe i) := by
  rw [update_apply]
  split_ifs with same
  · rw [same]
    exact here
  · exact .same _ _

theorem Move.grows (move : Move format children state event next) : state.collected <+: next.collected := by
  cases move with
  | ends info deadline buf child turn ended => exact prefix_append ..
  | _ => exact prefix_rfl

theorem Move.pipe (move : Move format children state event next) (i : Nat) :
    PipeStep (streamOf format children i).length (state.pipes i) (next.pipes i) := by
  cases move with
  | stays => exact .same _ _
  | ticks ns => exact .same _ _
  | writes j running more =>
    refine .update j _ ?_ i
    refine ⟨le_succ_of_le,fun _ => more,fun closed => ?_⟩
    rw [closed] at running
    cases running
  | closes j => exact .update j _ (.closes _ _) i
  | turns info phase turn => exact .same _ _
  | takes info pending deadline until_ at_ =>
    simp only [takeReady]
    split_ifs
    · exact .takes _ _
    · exact .same _ _
  | drains info j at_ => exact .update j _ (.takes _ _) i
  | reads info deadline buf at_ more =>
    refine .update _ _ ?_ i
    exact ⟨fun _ => le_refl _,id,fun closed => ⟨closed,rfl⟩⟩
  | ends info deadline buf child turn ended => exact .update _ _ (.closes _ _) i

theorem Turns.untouched (phase : Phase) (turn : Turns children state state.phase phase) (i : Nat)
    (later : Untouched i phase) : Untouched i state.phase := by
  generalize state.phase = before at turn
  cases turn with
  | drain => trivial
  | wait deadline => trivial
  | poll pending deadline until_ => exact later
  | _ => exact later.elim

theorem Turns.waiting (phase : Phase) (turn : Turns children state state.phase phase) (i : Nat)
    (later : Waiting i {state with phase := phase}) : Waiting i state := by
  unfold Waiting at later ⊢
  generalize state.phase = before at turn
  cases turn with
  | read deadline until_ => exact le_of_lt later
  | _ => exact later

theorem update_read {j : Nat} {pipe : Pipe} (same : pipe.read = (state.pipes j).read) {i : Nat} :
    (update state.pipes j pipe i).read = (state.pipes i).read := by
  rw [update_apply]
  split_ifs with here
  · rw [same,here]
  · rfl

theorem Move.untouched (move : Move format children state event next) (i : Nat) (later : Untouched i next.phase) :
    Untouched i state.phase ∧ (next.pipes i).read = (state.pipes i).read := by
  cases move with
  | stays => exact ⟨later,rfl⟩
  | ticks ns => exact ⟨later,rfl⟩
  | writes j running more => exact ⟨later,update_read (by rfl)⟩
  | closes j => exact ⟨later,update_read (by rfl)⟩
  | turns info phase turn => exact ⟨turn.untouched phase i later,rfl⟩
  | takes info pending deadline until_ at_ =>
    obtain ⟨member,unread⟩ := mem_filter.mp later
    simp only [takeReady,if_pos member,at_]
    exact ⟨member,takeByte_read_of_unreadable (by simpa using unread)⟩
  | drains info j at_ =>
    rw [at_]
    exact ⟨Nat.le_of_succ_le later,by simp only [Function.update_of_ne (Nat.ne_of_gt later)]⟩
  | reads info deadline buf at_ more => exact later.elim
  | ends info deadline buf child turn ended => exact later.elim

/-- Before its turn a pipe loses no byte but one that is taken while none had been. -/
theorem Move.waiting (move : Move format children state event next) (i : Nat) (later : Waiting i next) :
    Waiting i state ∧ (next.pipes i).read = (state.pipes i).read ∨
      Untouched i state.phase ∧ (next.pipes i).read ≤ (state.pipes i).read + 1 := by
  cases move with
  | stays => exact Or.inl ⟨later,rfl⟩
  | ticks ns => exact Or.inl ⟨later,rfl⟩
  | writes j running more => exact Or.inl ⟨later,update_read (by rfl)⟩
  | closes j => exact Or.inl ⟨later,update_read (by rfl)⟩
  | turns info phase turn => exact Or.inl ⟨turn.waiting phase i later,rfl⟩
  | takes info pending deadline until_ at_ =>
    simp only [Waiting,takeReady,at_]
    split_ifs with member
    · exact Or.inr ⟨member,takeByte_read_le⟩
    · exact Or.inl ⟨later,rfl⟩
  | drains info j at_ =>
    simp only [Waiting,at_]
    by_cases same : i = j
    · subst same
      rw [update_self]
      exact Or.inr ⟨le_refl i,takeByte_read_le⟩
    · exact Or.inl ⟨later,by rw [update_of_ne same]⟩
  | reads info deadline buf at_ more =>
    simp only [Waiting,at_]
    exact Or.inl ⟨later,by rw [update_of_ne (ne_of_gt later)]⟩
  | ends info deadline buf child turn ended =>
    have after : state.collected.length < i := by
      have bound : (state.collected ++ [child.decode format buf info]).length ≤ i := later
      rwa [length_append] at bound
    refine Or.inl ⟨?_,update_read (by rfl)⟩
    unfold Waiting
    split
    · exact after
    · exact le_of_lt after

theorem Move.inv (inv : Inv format children state) (move : Move format children state event next) :
    Inv format children next := by
  refine ⟨fun i => (move.pipe i).read (inv.read i),fun i => (move.pipe i).written (inv.written i),fun i later => ?_,
    fun i later => ?_⟩
  · obtain ⟨before,same⟩ := move.untouched i later
    rw [same,inv.untouched i before]
  · rcases move.waiting i later with ⟨before,same⟩ | ⟨untouched,one⟩
    · rw [same]
      exact inv.waiting i before
    · rwa [inv.untouched i untouched] at one

/-! A child's turn -/

variable (format) in
/-- From the poll of the child's pipe on, when `taken` bytes had been read from it before. -/
inductive Attended (child : ForkedChild R) (i taken : Nat) (state : State R) : Prop
  | awaiting (deadline until_ : Nat) (turn : state.collected.length = i) (at_ : state.phase = .awaiting deadline until_)
    (read : (state.pipes i).read = taken)
  | reading (deadline : Nat) (buf : List UInt8) (turn : state.collected.length = i)
    (at_ : state.phase = .reading deadline buf) (read : taken ≤ (state.pipes i).read)
    (got : buf = ((child.stream format).take (state.pipes i).read).drop taken)
  | served (info : ξ) (given : state.collected[i]? = some (child.decode format ((child.stream format).drop taken) info))
  | cut (beyond : i < state.collected.length) (closed : (state.pipes i).closed = true)
    (short : (state.pipes i).written < (child.stream format).length)

theorem drop_take_append {bytes : List UInt8} {taken read written : Nat} (le : taken ≤ read) (more : read ≤ written)
    (bound : written ≤ bytes.length) :
    (bytes.take read).drop taken ++ (bytes.take written).drop read = (bytes.take written).drop taken := by
  have split : bytes.take written = bytes.take read ++ (bytes.take written).drop read := by
    conv_lhs => rw [← take_append_drop read (bytes.take written)]
    rw [take_take,min_eq_left more]
  conv_rhs => rw [split]
  rw [drop_append_of_le_length]
  rw [length_take]
  omega

theorem Move.attended (codecs : Codecs format) (child : ForkedChild R) (i taken : Nat) (few : taken ≤ 1)
    (member : children[i]? = some child) (inv : Inv format children state) (move : Move format children state event next)
    (before : Attended format child i taken state) : Attended format child i taken next := by
  have stream : streamOf format children i = child.stream format := by simp [streamOf,member]
  have long : 2 ≤ (child.stream format).length := by
    have some_ := length_pos_of_ne_nil (encoded_ne_nil codecs child)
    simp only [ForkedChild.stream,length_cons]
    omega
  cases before with
  | awaiting deadline until_ turn at_ read =>
    subst turn
    cases move with
    | stays => exact .awaiting deadline until_ rfl at_ read
    | ticks ns => exact .awaiting deadline until_ rfl at_ read
    | writes j running more => exact .awaiting deadline until_ rfl at_ ((update_read (by rfl)).trans read)
    | closes j => exact .awaiting deadline until_ rfl at_ ((update_read (by rfl)).trans read)
    | turns info phase turn =>
      rw [at_] at turn
      cases turn with
      | read => exact .reading deadline [] rfl rfl (le_of_eq read.symm) (by simp [read])
    | takes info pending deadline until_ other => simp [at_] at other
    | drains info j other => simp [at_] at other
    | reads info deadline buf other => simp [at_] at other
    | ends info deadline buf child turn ended =>
      rw [at_] at ended
      cases ended with
      | silent _ _ unread =>
        refine .cut (by simp) (by simp) ?_
        have none : (state.pipes state.collected.length).written ≤ (state.pipes state.collected.length).read := by
          simp only [Pipe.readable,Bool.or_eq_false_iff,decide_eq_false_iff_not] at unread
          exact Nat.le_of_not_lt unread.1
        simp only [update_self]
        omega
  | reading deadline buf turn at_ read got =>
    subst turn
    have still {next : State R} (turn : next.collected.length = state.collected.length)
        (at_ : next.phase = .reading deadline buf)
        (same : (next.pipes state.collected.length).read = (state.pipes state.collected.length).read) :
        Attended format child state.collected.length taken next :=
      .reading deadline buf turn at_ (same ▸ read) (same ▸ got)
    cases move with
    | stays => exact still rfl at_ rfl
    | ticks ns => exact still rfl at_ rfl
    | writes j running more => exact still rfl at_ (update_read (by rfl))
    | closes j => exact still rfl at_ (update_read (by rfl))
    | turns info phase turn =>
      rw [at_] at turn
      cases turn
    | takes info pending deadline until_ other => simp [at_] at other
    | drains info j other => simp [at_] at other
    | reads info _ _ other more =>
      obtain ⟨rfl,rfl⟩ := Phase.reading.inj (at_.symm.trans other)
      refine .reading deadline _ rfl rfl ?_ ?_
      · simpa using le_of_lt (lt_of_le_of_lt read more)
      · simp only [update_self,stream,got]
        exact drop_take_append read (le_of_lt more) (stream ▸ inv.written _)
    | ends info _ _ other turn ended =>
      obtain rfl : child = other := some.inj (member.symm.trans turn)
      rw [at_] at ended
      cases ended with
      | eof _ _ drained closed =>
        have all := le_antisymm (inv.read _) drained
        rcases lt_or_ge (state.pipes state.collected.length).written (child.stream format).length with short | whole
        · refine .cut (by simp) (by simp) ?_
          simpa only [update_self] using short
        · refine .served info ?_
          rw [getElem?_concat_length,got,all,take_of_length_le whole]
  | served info given =>
    obtain ⟨more,grown⟩ := move.grows
    refine .served info ?_
    rw [← grown,getElem?_append_left (List.getElem?_eq_some_iff.mp given).1,given]
  | cut beyond closed short =>
    obtain ⟨still,same⟩ := (move.pipe i).closed closed
    exact .cut (lt_of_lt_of_le beyond move.grows.length_le) still (same ▸ short)

variable (format children) (wasStarted : Bool)

variable (events : List (Event ξ))

def reached : State R := run (step format children wasStarted) {} events

structure TurnBegins (before : List (Event ξ)) (i deadline : Nat) : Prop where
  phase : (reached format children wasStarted before).phase = .collecting deadline
  turn : (reached format children wasStarted before).collected.length = i

def HadTurn (i : Nat) : Prop :=
  ∃ before info after deadline, events = before ++ .parent info::after ∧
    TurnBegins format children wasStarted before i deadline

/-- The child has written all it has to say and has closed its pipe. -/
def Finished (state : State R) (i : Nat) : Prop :=
  (state.pipes i).written = (streamOf format children i).length ∧ (state.pipes i).closed = true

/-- The parent has nothing left to do, however long it waits: it has returned, or is in a read that does not end. -/
def Settled (state : State R) : Prop :=
  ∀ (ns : Nat) (info : ξ), parentStep format children wasStarted {state with clock := state.clock + ns} info =
    {state with clock := state.clock + ns}

variable {format children wasStarted}

theorem reached_split (before after : List (Event ξ)) (event : Event ξ) :
    reached format children wasStarted (before ++ event::after) =
      run (step format children wasStarted) (step format children wasStarted (reached format children wasStarted before) event)
        after :=
  run_append ..

theorem HadTurn.later (last : Event ξ) (i : Nat) (had : HadTurn format children wasStarted events i) :
    HadTurn format children wasStarted (events ++ [last]) i := by
  obtain ⟨before,info,after,deadline,rfl,begins⟩ := had
  exact ⟨before,info,after ++ [last],deadline,by simp,begins⟩

def Attending : Phase → Prop
  | .awaiting _ _ | .reading _ _ => True
  | _ => False

variable (format children wasStarted) in
/-- Every contribution comes from a turn, and so does every report that is being waited for. -/
structure Accounted (events : List (Event ξ)) (state : State R) : Prop where
  past : ∀ i < state.collected.length, HadTurn format children wasStarted events i
  present : Attending state.phase → HadTurn format children wasStarted events state.collected.length

theorem Accounted.move (events : List (Event ξ)) (here : reached format children wasStarted events = state)
    (held : Accounted format children wasStarted events state) (move : Move format children state event next) :
    Accounted format children wasStarted (events ++ [event]) next := by
  have past (i : Nat) (below : i < state.collected.length) := (held.past i below).later events event i
  have present (busy : Attending state.phase) := (held.present busy).later events event
  have now (info : ξ) (deadline : Nat) (at_ : state.phase = .collecting deadline) :
      HadTurn format children wasStarted (events ++ [.parent info]) state.collected.length :=
    ⟨events,info,[],deadline,rfl,here ▸ at_,here ▸ rfl⟩
  cases move with
  | stays => exact ⟨past,present⟩
  | ticks ns => exact ⟨past,present⟩
  | writes j running more => exact ⟨past,present⟩
  | closes j => exact ⟨past,present⟩
  | turns info phase turn =>
    refine ⟨past,fun busy => ?_⟩
    generalize at_ : state.phase = before at turn
    cases turn with
    | await deadline until_ left => exact now info deadline at_
    | read deadline until_ => exact present (at_ ▸ trivial)
    | _ => exact busy.elim
  | takes info pending deadline until_ at_ => exact ⟨past,False.elim⟩
  | drains info j at_ => exact ⟨past,False.elim⟩
  | reads info deadline buf at_ more => exact ⟨past,fun _ => present (at_ ▸ trivial)⟩
  | ends info deadline buf child turn ended =>
    refine ⟨fun i below => ?_,False.elim⟩
    rcases lt_or_ge i state.collected.length with earlier | here
    · exact past i earlier
    · obtain rfl : i = state.collected.length := by
        simp only [length_append,length_singleton] at below
        omega
      generalize at_ : state.phase = before at ended
      cases ended with
      | late deadline out => exact now info deadline at_
      | silent deadline until_ unread => exact present (at_ ▸ trivial)
      | eof deadline buf drained closed => exact present (at_ ▸ trivial)

theorem run_accounted {events : List (Event ξ)} :
    Accounted format children wasStarted events (reached format children wasStarted events) := by
  refine run_history _ _ _ ⟨fun i below => absurd below (not_lt_zero i),False.elim⟩ ?_ events
  exact fun events last held => held.move events rfl (step_moves wasStarted)

theorem run_inv {events : List (Event ξ)} : Inv format children (reached format children wasStarted events) := by
  refine run_invariant _ _ (fun state event inv => (step_moves wasStarted).inv inv) _ _ ?_
  exact ⟨fun _ => le_refl 0,fun _ => zero_le _,fun _ _ => rfl,fun _ _ => zero_le 1⟩

variable (wasStarted) in
theorem run_attended (codecs : Codecs format) {child : ForkedChild R} {i taken : Nat} (few : taken ≤ 1)
    (member : children[i]? = some child) (inv : Inv format children state) (begun : Attended format child i taken state)
    (events : List (Event ξ)) : Attended format child i taken (run (step format children wasStarted) state events) := by
  have both := run_invariant (step format children wasStarted)
    (fun state => Inv format children state ∧ Attended format child i taken state)
    (fun state event held =>
      have move := step_moves wasStarted
      ⟨move.inv held.1,move.attended codecs child i taken few member held.1 held.2⟩) state events ⟨inv,begun⟩
  exact both.2

variable (format children wasStarted) in
theorem run_contribution {i : Nat} {given : Contribution R} (had : state.collected[i]? = some given)
    (events : List (Event ξ)) : (run (step format children wasStarted) state events).collected[i]? = some given := by
  refine run_invariant (step format children wasStarted) (fun state => state.collected[i]? = some given) ?_ state events had
  intro state event had
  have move : Move format children state event _ := step_moves wasStarted
  obtain ⟨more,grown⟩ := move.grows
  rw [← grown,getElem?_append_left (List.getElem?_eq_some_iff.mp had).1,had]

variable (format wasStarted) in
theorem turn_step {child : ForkedChild R} {deadline : Nat} (info : ξ) (at_ : state.phase = .collecting deadline)
    (member : children[state.collected.length]? = some child) :
    if deadline < state.clock + nsPerMs then
      (step format children wasStarted state (.parent info)).collected[state.collected.length]? =
        some (child.decode format [] info)
    else Attended format child state.collected.length (state.pipes state.collected.length).read
      (step format children wasStarted state (.parent info)) := by
  have more := not_le.mpr (List.getElem?_eq_some_iff.mp member).1
  simp only [step,parentStep,at_,remainingMs_eq_zero_iff]
  split_ifs with out
  · simp [finishChild,member]
  · exact .awaiting deadline _ rfl rfl rfl

theorem Settled.not_awaiting (settled : Settled format children wasStarted state) (deadline until_ : Nat)
    (at_ : state.phase = .awaiting deadline until_) (child : ForkedChild R)
    (member : children[state.collected.length]? = some child) (info : ξ) : False := by
  have same := congrArg State.phase (settled until_ info)
  have out : until_ ≤ state.clock + until_ := Nat.le_add_left ..
  simp only [parentStep,at_,finishChild,member] at same
  split_ifs at same

theorem Settled.not_closed (settled : Settled format children wasStarted state) (deadline : Nat) (buf : List UInt8)
    (at_ : state.phase = .reading deadline buf) (child : ForkedChild R)
    (member : children[state.collected.length]? = some child) (info : ξ) :
    (state.pipes state.collected.length).closed = false := by
  have same := settled 0 info
  simp only [parentStep,at_,finishChild,member] at same
  split_ifs at same with more closed
  · have read := congrArg (fun state : State R => (state.pipes state.collected.length).read) same
    simp only [update_self] at read
    exact absurd read (ne_of_gt more)
  · cases congrArg State.phase same
  · exact eq_false_of_ne_true closed

theorem Attended.given (child : ForkedChild R) (i taken : Nat) (member : children[i]? = some child)
    (attended : Attended format child i taken state) (settled : Settled format children wasStarted state)
    (finished : Finished format children state i) (info : ξ) :
    ∃ info, state.collected[i]? = some (child.decode format ((child.stream format).drop taken) info) := by
  cases attended with
  | awaiting deadline until_ turn at_ read => exact (settled.not_awaiting deadline until_ at_ child (turn ▸ member) info).elim
  | reading deadline buf turn at_ read got =>
    have running := settled.not_closed deadline buf at_ child (turn ▸ member) info
    rw [turn,finished.2] at running
    cases running
  | served info given => exact ⟨info,given⟩
  | cut beyond closed short =>
    have whole := finished.1
    simp only [streamOf,member] at whole
    exact absurd whole (Nat.ne_of_lt short)

/-- A finished report is kept just when the child's turn begins with a millisecond left and its first byte is safe: the ready
byte is still in front of it, or it does not look like one. -/
theorem finished_report_kept_iff (codecs : Codecs format) (events : List (Event ξ)) (i : Nat) (child : ForkedChild R)
    (member : children[i]? = some child)
    (settled : Settled format children wasStarted (reached format children wasStarted events))
    (finished : Finished format children (reached format children wasStarted events) i) :
    (reached format children wasStarted events).collected[i]? = some (.decoded child.reports) ↔
      ∃ before info after deadline, events = before ++ .parent info::after ∧
        TurnBegins format children wasStarted before i deadline ∧
        (reached format children wasStarted before).clock + nsPerMs ≤ deadline ∧
        (((reached format children wasStarted before).pipes i).read = 0 ∨
          (child.encoded format).head? ≠ some readyByte) := by
  -- both directions: what becomes of a turn that begins in time
  have outcome (before : List (Event ξ)) (info : ξ) (after : List (Event ξ)) (deadline : Nat)
      (whole : events = before ++ .parent info::after) (begins : TurnBegins format children wasStarted before i deadline)
      (left : (reached format children wasStarted before).clock + nsPerMs ≤ deadline) :
      (reached format children wasStarted events).collected[i]? = some (.decoded child.reports) ↔
        ((reached format children wasStarted before).pipes i).read = 0 ∨
          (child.encoded format).head? ≠ some readyByte := by
    have inv : Inv format children (reached format children wasStarted before) := run_inv
    have start := turn_step format wasStarted info begins.phase
      (begins.turn ▸ member)
    rw [if_neg (not_lt.mpr left),begins.turn] at start
    have few : ((reached format children wasStarted before).pipes i).read ≤ 1 := by
      apply inv.waiting i
      unfold Waiting
      rw [begins.phase]
      exact le_of_eq begins.turn
    have attended := run_attended wasStarted codecs few member
      ((step_moves wasStarted).inv inv) start after
    rw [← reached_split,← whole] at attended
    obtain ⟨info,given⟩ := attended.given child i _ member settled finished info
    rw [given,some.injEq,decode_drop_iff codecs few]
  constructor
  · intro kept
    obtain ⟨before,info,after,deadline,whole,begins⟩ :=
      run_accounted.past i (List.getElem?_eq_some_iff.mp kept).1
    refine ⟨before,info,after,deadline,whole,begins,?_⟩
    have left : (reached format children wasStarted before).clock + nsPerMs ≤ deadline := by
      by_contra out
      have start := turn_step format wasStarted info begins.phase
        (begins.turn ▸ member)
      rw [if_pos (Nat.lt_of_not_le out),begins.turn] at start
      have lost := run_contribution format children wasStarted start after
      rw [← reached_split,← whole,kept,some.injEq] at lost
      exact not_reads_nil codecs ((decode_eq_iff format [] info).mp lost.symm)
    exact ⟨left,(outcome before info after deadline whole begins left).mp kept⟩
  · rintro ⟨before,info,after,deadline,whole,begins,left,safe⟩
    exact (outcome before info after deadline whole begins left).mpr safe

theorem settled_of_finished (done : state.phase = .finished) : Settled format children wasStarted state := by
  intro ns info
  simp only [parentStep,done]

end

/-! Two lost reports -/

section

/-- Reports of one byte, such as a small tid, with a byte behind it. -/
def byteFormat : Format UInt8 Unit where
  encodeOne tid := [tid,0]
  decodeOne
    | [tid,_] => some tid
    | _ => none
  encodeAll tids := 91::tids
  decodeAll
    | 91::tids => some tids
    | _ => none
  sentinel _ _ _ := 0

theorem byteFormat_codecs : Codecs byteFormat where
  one _ := rfl
  all _ := rfl
  written tid := cons_ne_nil tid [0]
  shortest bytes tid := by
    match bytes with
    | [] => simp [byteFormat]
    | [_] => simp [byteFormat]
    | [_,_] => simp [byteFormat]
    | _::_::_::_ => simp [byteFormat]
  bracketed _ := rfl
  empty := rfl

def worker (tid : UInt8) : ForkedChild UInt8 := ⟨100,.worker 0 tid⟩

/-- One worker finishes before it is collected from, after an explicit start. -/
def finishFirst : List (Event Unit) :=
  [.writes 0,.writes 0,.writes 0,.closes 0] ++ List.replicate 9 (.parent ())

instance (format : Format UInt8 Unit) (children : List (ForkedChild UInt8)) (state : State UInt8) (i : Nat) :
    Decidable (Finished format children state i) :=
  inferInstanceAs (Decidable ((state.pipes i).written = (streamOf format children i).length ∧ (state.pipes i).closed = true))

theorem plain_tid_kept :
    (reached byteFormat [worker 2] true finishFirst).collected[0]? = some (.decoded (worker 2).reports) := by
  refine (finished_report_kept_iff byteFormat_codecs finishFirst 0 (worker 2) rfl
    (settled_of_finished (by decide +kernel)) (by decide +kernel)).mpr ?_
  exact ⟨finishFirst.take 8,(),List.replicate 4 (.parent ()),budgetNs,rfl,⟨by decide +kernel,by decide +kernel⟩,
    by decide +kernel,.inr (by decide)⟩

/-- The second child is done at once, the first writes its ready byte and hangs. -/
def firstHangs : List (Event Unit) :=
  [.writes 0,.writes 1,.writes 1,.writes 1,.closes 1] ++ List.replicate 6 (.parent ()) ++ [.tick budgetNs] ++
    List.replicate 3 (.parent ())

theorem finished_reports_lost : Codecs byteFormat ∧
    (Finished byteFormat [worker 114] (reached byteFormat [worker 114] true (finishFirst.take 4)) 0 ∧
      (reached byteFormat [worker 114] true finishFirst).phase = .finished ∧
      (reached byteFormat [worker 114] true finishFirst).collected[0]? = some (.failed [0])) ∧
    (Finished byteFormat [worker 2,worker 4] (reached byteFormat [worker 2,worker 4] false (firstHangs.take 5)) 1 ∧
      (reached byteFormat [worker 2,worker 4] false firstHangs).phase = .finished ∧
      (reached byteFormat [worker 2,worker 4] false firstHangs).collected[1]? = some (.failed [0])) := by
  exact ⟨byteFormat_codecs,by decide +kernel,by decide +kernel⟩

end

end Ktstr.CollectedReports
