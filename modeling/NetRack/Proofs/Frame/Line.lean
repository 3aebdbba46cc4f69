import NetRack.Proofs.Console.Line
import NetRack.Proofs.Frame.Global
import NetRack.Proofs.Frame.Submode

/-!
# Lines and the frame

What a line asks a device for, whether it trips, and what it makes of the device's frame are told by the
frame alone.  A line that looks at the network may say one thing or another, or be refused, but it leaves
the device as it is.
-/

namespace NetRack

open Outcome

variable {d : Device}

/-! ## What a line asks for -/

/-- Another device is of the same type and has interfaces of the same names. -/
structure Device.SameNames (d d' : Device) : Prop where
  type : d'.type = d.type
  names : ∀ k, d'.interfaces.contains k = d.interfaces.contains k

theorem Device.sameNames_frame (d : Device) : d.SameNames d.frame := ⟨rfl, Device.contains_frame d⟩

namespace Argument

variable {d' : Device}

theorem isPossibleInterface_congr (h : d.SameNames d') (name : String) :
    isPossibleInterface d' name = isPossibleInterface d name := by
  have isA (t : DeviceType) : d'.isA t = d.isA t := by
    unfold Device.isA
    rw [h.type]
  unfold isPossibleInterface
  simp only [h.names, isA]

theorem read_congr (h : d.SameNames d') (kind : ArgKind) (low high : Option Int) (raw : String) :
    read kind low high (some d') raw = read kind low high (some d) raw := by
  cases kind with
  | interface =>
    unfold read readInterface
    simp only [isPossibleInterface_congr h]
  | nextHop =>
    unfold read readNextHop
    simp only [Option.all_some, h.names]
  | _ => rfl

end Argument

/-- A walk looks at a device only to read arguments. -/
theorem LineContext.walk_congr (c : LineContext) {device : Option Device}
    (h : ∀ kind low high raw, Argument.read kind low high device raw = Argument.read kind low high c.device raw)
    (w : Walk) (position : Nat) (words : List Text.Word) :
    ({ c with device } : LineContext).walk w position words = c.walk w position words := by
  induction w, position, words using Walk.induction with
  | done w position => rfl
  | astray w position word rest hs =>
    unfold walk
    split
    · rfl
    · rfl
    · rename_i child hc
      exact absurd hc (hs child)
  | keyword w position word rest child token binds hs hl ih =>
    rw [walk_keyword hs hl, walk_keyword hs hl]
    exact ih
  | line w position word rest child name low high hs hl =>
    rw [walk_line hs hl, walk_line hs hl]
    rfl
  | argument w position word rest child name kind low high hs hl hk ih =>
    rw [walk_argument hs hl hk, walk_argument hs hl hk, h]
    split
    · rfl
    · rfl
    · exact ih _ _

theorem resolve_congr {d' : Device} (h : d.SameNames d') (line : String) (root : Node) (offset : Int) :
    resolve line root (some d') offset = resolve line root (some d) offset := by
  unfold resolve
  dsimp only
  cases (Text.words line).getLast? with
  | none => rfl
  | some last =>
    have walks := LineContext.walk_congr ⟨line.toList, some d, offset, last, (Text.words line).length - 1⟩
      (Argument.read_congr h) { node := root } 0 (Text.words line)
    exact congrArg (some <$> ·) walks

theorem meetsOverlong_frame (root : Node) (line : String) :
    MeetsOverlong (some d.frame) root (Text.words line) ↔ MeetsOverlong (some d) root (Text.words line) := by
  have told (device : Option Device) : MeetsOverlong device root (Text.words line) ↔
      resolve line root device 0 = .error .badNumber := by
    rw [resolve_error_iff]
    simp
  rw [told, told, resolve_congr d.sameNames_frame]

namespace Console

/-- What a line asks for is told by the type of the device and the names of its interfaces. -/
theorem request?_congr {d' : Device} (h : d.SameNames d') (line : String) (mode : Mode) (offset : Int) :
    request? d' line mode offset = request? d line mode offset := by
  have same : platform d' = platform d := by
    unfold platform Device.isA
    rw [h.type]
  unfold request?
  rw [same, resolve_congr h]

theorem request?_frame (line : String) (mode : Mode) (offset : Int) :
    request? d.frame line mode offset = request? d line mode offset := request?_congr d.sameNames_frame ..

/-- Whether a line trips is told by the frame. -/
theorem trips_frame {line : String} {offset : Int} : Trips d.frame line offset ↔ Trips d line offset := by
  constructor
  · intro h
    generalize hf : d.frame = f at h
    induction h generalizing d with
    | numeral hlong =>
      subst hf
      exact .numeral ((meetsOverlong_frame _ _).1 hlong)
    | lists asks orders long =>
      subst hf
      exact .lists ((request?_frame _ _ _).symm.trans asks) orders long
    | interface asks new unreadable =>
      subst hf
      rw [Device.contains_frame] at new
      exact .interface ((request?_frame _ _ _).symm.trans asks) new unreadable
    | within asks inner ih =>
      subst hf
      exact .within ((request?_frame _ _ _).symm.trans asks) (ih rfl)
  · intro h
    induction h with
    | numeral hlong => exact .numeral ((meetsOverlong_frame _ _).2 hlong)
    | lists asks orders long => exact .lists ((request?_frame _ _ _).trans asks) orders long
    | interface asks new unreadable =>
      rw [← Device.contains_frame] at new
      exact .interface ((request?_frame _ _ _).trans asks) new unreadable
    | within asks inner ih => exact .within ((request?_frame _ _ _).trans asks) ih

end Console

/-! ## The running configuration -/

theorem configCommands_frame : Show.configCommands d.frame = Show.configCommands d := by
  have each (is : List Interface) : (is.map Interface.frame).mapM (Show.interfaceCommands d.frame) =
      is.mapM (Show.interfaceCommands d) := by
    rw [List.mapM_map]
    rfl
  have routing : Show.routingSection d.frame = Show.routingSection d := by
    unfold Show.routingSection
    rw [d.static_frame]
    rfl
  unfold Show.configCommands
  rw [Device.sortedInterfaces_frame, routing]
  cases d.sortedInterfaces with
  | error f => rfl
  | ok is =>
    rw [map_ok, ok_bind, ok_bind, each]
    rfl

/-- What is saved is told by the frame. -/
theorem runningConfig_frame : Show.runningConfig d.frame = Show.runningConfig d := by
  unfold Show.runningConfig
  rw [configCommands_frame]

/-! ## What is left of a device -/

namespace Console

/-- The device that a command leaves, before anything is carried on. -/
def left (d : Device) : Except Failure Outcome → Device
  | .ok o => o.device
  | .error _ => d

theorem left_framed (x : Except Failure Outcome) : left d.frame (framed <$> x) = (left d x).frame := by
  cases x <;> rfl

/-- What holds of a device and of all that a command makes of it holds of what the command leaves. -/
theorem left_of_meets {P : Device → Prop} {x : Except Failure Outcome} (before : P d)
    (after : Meets (fun _ => True) (fun o => P o.device) x) : P (left d x) := by
  cases x with
  | ok o => exact after
  | error f => exact before

/-- A command whose only outcome is the device as it is leaves it so. -/
theorem left_eq {x : Except Failure Outcome} (h : Meets (fun _ => True) (fun o => o.device = d) x) :
    left d x = d := left_of_meets (P := (· = d)) rfl h

/-- An exec command leaves of the frame what it leaves of the device, in whatever network. -/
theorem execCommand_frame (t u : Topology) (c : ExecCommand) :
    left d.frame (c.apply u d.frame) = (left d (c.apply t d)).frame := by
  have stays {x y : Except Failure Outcome} (hx : Meets (fun _ => True) (fun o => o.device = d) x)
      (hy : Meets (fun _ => True) (fun o => o.device = d.frame) y) : left d.frame y = (left d x).frame := by
    rw [left_eq hx, left_eq hy]
  cases c with
  | enable => rfl
  | disable => rfl
  | exit =>
    have natural : ExecCommand.exit.apply u d.frame = framed <$> ExecCommand.exit.apply t d := by
      show (if d.isA .pc = true then _ else liftM d.frame.exitMode >>= _) = framed <$> (if _ then _ else _)
      rw [Device.exitMode_frame]
      split
      · rfl
      · exact framed_bind (liftM_map _ _) fun _ => rfl
    rw [natural, left_framed]
  | endConfig => rfl
  | configureTerminal =>
    have natural : ExecCommand.configureTerminal.apply u d.frame =
        framed <$> ExecCommand.configureTerminal.apply t d :=
      framed_enterMode d .globalConfig id (f := fun d =>
        { device := d, output := "Enter configuration commands, one per line.  End with CNTL/Z." }) fun _ => rfl
    rw [natural, left_framed]
  | copyRunStart =>
    have natural : ExecCommand.copyRunStart.apply u d.frame = framed <$> ExecCommand.copyRunStart.apply t d := by
      exact framed_same (congrArg liftM runningConfig_frame) fun _ => rfl
    rw [natural, left_framed]
  | ping target source =>
    exact stays
      ((Meets.anything _).bind fun _ _ => (Meets.anything _).bind fun _ _ => (Meets.anything _).bind fun _ _ => rfl)
      ((Meets.anything _).bind fun _ _ => (Meets.anything _).bind fun _ _ => (Meets.anything _).bind fun _ _ => rfl)
  | traceroute target =>
    exact stays ((Meets.anything _).bind fun _ _ => (Meets.anything _).bind fun _ _ => rfl)
      ((Meets.anything _).bind fun _ _ => (Meets.anything _).bind fun _ _ => rfl)
  | display item => exact stays ((Meets.anything _).bind fun _ _ => rfl) ((Meets.anything _).bind fun _ _ => rfl)

/-- A command leaves of the frame what it leaves of the device. -/
theorem command_frame (t u : Topology) (h : d.Sound) {c : Command} (ha : c.Admissible d) :
    left d.frame (c.apply u d.frame) = (left d (c.apply t d)).frame := by
  have natural {x y : Except Failure Outcome} (hy : y = framed <$> x) : left d.frame y = (left d x).frame := by
    rw [hy, left_framed]
  cases c with
  | exec c => exact execCommand_frame t u c
  | global c => exact natural (globalCommand_frame h ha.2)
  | interface c => exact natural (interfaceCommand_frame c)
  | router c => exact natural (routerCommand_frame c)
  | line c => exact natural (lineCommand_frame c)
  | vlanName name => exact natural (nameVlan_frame name)
  | aclRule rule => exact natural (addRule_frame rule)
  | pool c => exact natural (poolCommand_frame c)
  | host c =>
    cases c with
    | ip address mask gateway => exact natural (setHostAddress_frame h address mask gateway)
    | ipconfig =>
      have shown (x : Device) : left x (HostCommand.ipconfig.apply x) = x :=
        left_eq ((Meets.anything _).bind fun _ _ => rfl)
      exact (shown d.frame).trans (congrArg Device.frame (shown d).symm)

/-! ## Lines -/

theorem runPrivileged_frame (t u : Topology) (h : d.Sound) (hm : d.mode = .privileged) (line : String)
    (offset : Int) :
    left d.frame (runPrivileged u d.frame line offset) = (left d (runPrivileged t d line offset)).frame := by
  have asked := request?_meets d line offset
  rw [hm] at asked
  unfold runPrivileged
  rw [request?_frame]
  cases hq : request? d line .privileged offset with
  | error f => rfl
  | ok q =>
    cases q with
    | none => rfl
    | some r =>
      cases r with
      | command c => exact command_frame t u h (asked.value hq _ rfl)
      | runExec payload column => rfl

theorem left_runFromConfig (t : Topology) (d : Device) (line : String) (offset : Int) :
    left d (runFromConfig t d line offset) = d.restored
      (left { d with mode := .privileged } (runPrivileged t { d with mode := .privileged } line offset)) := by
  unfold runFromConfig
  cases runPrivileged t { d with mode := .privileged } line offset <;> rfl

theorem runFromConfig_frame (t u : Topology) (h : d.Sound) (line : String) (offset : Int) :
    left d.frame (runFromConfig u d.frame line offset) = (left d (runFromConfig t d line offset)).frame := by
  have inner := runPrivileged_frame t u (h.with_mode .privileged) rfl line offset
  rw [left_runFromConfig, left_runFromConfig]
  exact congrArg d.frame.restored inner

/-- The device that a line leaves, before anything is carried on. -/
def made (t : Topology) (d : Device) (line : String) : Device :=
  match run t d line with
  | .ok (some o) => o.device
  | _ => d

theorem made_command {t : Topology} {line : String} {c : Command}
    (asked : request? d line d.mode 0 = .ok (some (.command c))) :
    made t d line = left d (c.apply t d) := by
  unfold made
  rw [run_command asked]
  cases c.apply t d <;> rfl

theorem made_runExec {t : Topology} {line payload : String} {column : Int}
    (asked : request? d line d.mode 0 = .ok (some (.runExec payload column))) :
    made t d line = left d (runFromConfig t d payload column) := by
  unfold made
  rw [run_runExec asked]
  cases runFromConfig t d payload column <;> rfl

/-- A line leaves of the frame what it leaves of the device, in whatever network. -/
theorem made_frame (t u : Topology) (h : d.Sound) (line : String) :
    made u d.frame line = (made t d line).frame := by
  have asked := request?_meets d line 0
  have same : request? d.frame line d.frame.mode 0 = request? d line d.mode 0 := request?_frame _ _ _
  cases hq : request? d line d.mode 0 with
  | error f =>
    unfold made run
    rw [same, hq]
    rfl
  | ok q =>
    cases q with
    | none =>
      unfold made run
      rw [same, hq]
      rfl
    | some r =>
      cases r with
      | command c =>
        rw [made_command hq, made_command (same.trans hq)]
        exact command_frame t u h (asked.value hq _ rfl)
      | runExec payload column =>
        rw [made_runExec hq, made_runExec (same.trans hq)]
        exact runFromConfig_frame t u h payload column

end Console

end NetRack
