import Captioning.CommandLine
import Mathlib.Data.List.Induction

/-!
# What arguments ask for

Arguments that are understood are read one after the other, in any order: each of them changes the
options by itself.
-/

namespace Captioning.CommandLine

/-- An argument that is understood. -/
inductive Argument where
  /-- A number of frames in a word of its own. -/
  | frames (value : String)
  /-- A number of frames in the same word. -/
  | framesJoined (value : String)
  | attach
  | disconnected
  | printScenario
  /-- The path of a scenario. -/
  | file (path : String)
  deriving DecidableEq

namespace Argument

/-- The words of an argument. -/
def words : Argument → List String
  | frames value => ["--frames", value]
  | framesJoined value => ["--frames=" ++ value]
  | attach => ["--attach"]
  | disconnected => ["--disconnected"]
  | printScenario => ["--print-scenario"]
  | file path => [path]

/-- The number of frames that a text denotes. -/
def countOf? (value : String) : Option UInt32 :=
  (Decimal.readCount? wordCount value.toList).map UInt32.ofNat

/-- The number of frames that is asked for. -/
def count? : Argument → Option UInt32
  | frames value | framesJoined value => countOf? value
  | _ => none

/-- The path that is named. -/
def path? : Argument → Option String
  | file path => some path
  | _ => none

/-- An argument that is accepted: a number of frames must be one, and a path does not begin like a
flag. -/
def IsReadable : Argument → Prop
  | frames value | framesJoined value => (countOf? value).isSome = true
  | file path => path.toList.head? ≠ some '-'
  | _ => True

instance : (a : Argument) → Decidable a.IsReadable
  | frames value | framesJoined value =>
      inferInstanceAs (Decidable ((countOf? value).isSome = true))
  | file path => inferInstanceAs (Decidable (path.toList.head? ≠ some '-'))
  | attach | disconnected | printScenario => inferInstanceAs (Decidable True)

/-- The options with what one more argument asks for. -/
def apply (o : Options) : Argument → Options
  | frames value | framesJoined value => { o with frames := countOf? value }
  | attach => { o with attach := true }
  | disconnected => { o with disconnected := true }
  | printScenario => { o with printScenario := true }
  | file path => { o with file := some path }

end Argument

variable {o : Options} {a : Argument} {args : List Argument} {rest : List String}

/-- What is typed for arguments. -/
def words (args : List Argument) : List String :=
  args.flatMap Argument.words

/-! ## One argument -/

theorem setFrames_of_count {value : String} (h : (Argument.countOf? value).isSome = true) :
    setFrames o value = .ok { o with frames := Argument.countOf? value } := by
  unfold Argument.countOf? at h ⊢
  rw [Option.isSome_map] at h
  obtain ⟨n, hn⟩ := Option.isSome_iff_exists.mp h
  rw [setFrames, hn]
  rfl

/-- A word that does not begin like a flag is none. -/
theorem ne_flag {path flag : String} (hpath : path.toList.head? ≠ some '-')
    (hflag : flag.toList.head? = some '-') : path ≠ flag := by
  rintro rfl
  exact hpath hflag

theorem takeArgument_path {path : String} (hpath : path.toList.head? ≠ some '-') :
    takeArgument o path = .ok { o with file := some path } := by
  have hcount : attachedCount? path = none := by
    unfold attachedCount?
    dsimp only
    rw [if_neg]
    intro hprefix
    obtain ⟨value, hvalue⟩ := List.isPrefixOf_iff_prefix.mp hprefix
    exact hpath (by rw [← hvalue]; rfl)
  rw [takeArgument, if_neg, if_neg (ne_flag hpath rfl), if_neg (ne_flag hpath rfl),
    if_neg (ne_flag hpath rfl), hcount]
  · dsimp only
    rw [if_neg hpath]
  · rintro (h | h)
    · exact ne_flag hpath rfl h
    · exact ne_flag hpath rfl h

/-- A word with a number of frames after an equals sign is no other flag. -/
theorem joined_ne {value flag : String}
    (hflag : "--frames=".toList.isPrefixOf flag.toList = false) : "--frames=" ++ value ≠ flag := by
  rintro rfl
  rw [String.toList_append, Bool.eq_false_iff] at hflag
  exact hflag (List.isPrefixOf_iff_prefix.mpr (List.prefix_append _ _))

theorem takeArgument_joined {value : String} (h : (Argument.countOf? value).isSome = true) :
    takeArgument o ("--frames=" ++ value) = .ok { o with frames := Argument.countOf? value } := by
  have hcount : attachedCount? ("--frames=" ++ value) = some value := by
    unfold attachedCount?
    dsimp only
    rw [String.toList_append, if_pos (List.isPrefixOf_iff_prefix.mpr (List.prefix_append _ _)),
      List.drop_left, String.ofList_toList]
  rw [takeArgument, if_neg, if_neg (joined_ne (by decide)), if_neg (joined_ne (by decide)),
    if_neg (joined_ne (by decide)), hcount]
  · exact setFrames_of_count h
  · rintro (h | h)
    · exact joined_ne (by decide) h
    · exact joined_ne (by decide) h

theorem parse_cons {arg : String} {next : Options} (hframes : arg ≠ "--frames")
    (h : takeArgument o arg = .ok next) : parse o (arg :: rest) = parse next rest := by
  rw [parse.eq_def]
  dsimp only
  rw [if_neg hframes, h]

theorem parse_frames {value : String} {next : Options} (h : setFrames o value = .ok next) :
    parse o ("--frames" :: value :: rest) = parse next rest := by
  rw [parse.eq_def]
  dsimp only
  rw [if_pos rfl, h]

/-- An argument that is accepted is read off the front, whatever follows it. -/
theorem parse_words_append (h : a.IsReadable) (rest : List String) :
    parse o (a.words ++ rest) = parse (a.apply o) rest := by
  cases a with
  | frames value => exact parse_frames (setFrames_of_count h)
  | framesJoined value => exact parse_cons (joined_ne (by decide)) (takeArgument_joined h)
  | attach => exact parse_cons (by decide) rfl
  | disconnected => exact parse_cons (by decide) rfl
  | printScenario => exact parse_cons (by decide) rfl
  | file path => exact parse_cons (ne_flag h rfl) (takeArgument_path h)

/-! ## All arguments -/

/-- Arguments that are accepted are read one after the other, and none of them is a fault. -/
theorem parse_words (h : ∀ a ∈ args, a.IsReadable) :
    parse o (words args) = (args.foldl (fun o a => a.apply o) o, none) := by
  induction args generalizing o with
  | nil => rfl
  | cons a args ih =>
      obtain ⟨ha, hargs⟩ := List.forall_mem_cons.mp h
      calc parse o (words (a :: args)) = parse o (a.words ++ words args) := rfl
        _ = parse (a.apply o) (words args) := parse_words_append ha _
        _ = ((a :: args).foldl (fun o a => a.apply o) o, none) := ih hargs

/-- What arguments change in options: the last number of frames and the last path count, and a
flag that is set stays. -/
theorem foldl_apply (h : ∀ a ∈ args, a.IsReadable) (o : Options) :
    args.foldl (fun o a => a.apply o) o =
      { o with
        file := (args.filterMap Argument.path?).getLast?.or o.file
        frames := (args.filterMap Argument.count?).getLast?.or o.frames
        attach := o.attach || decide (.attach ∈ args)
        disconnected := o.disconnected || decide (.disconnected ∈ args)
        printScenario := o.printScenario || decide (.printScenario ∈ args) } := by
  induction args using List.reverseRecOn with
  | nil => simp
  | append_singleton args a ih =>
      have ha : a.IsReadable := h a (List.mem_append_right _ List.mem_cons_self)
      rw [List.foldl_append, ih fun b hb => h b (List.mem_append_left _ hb), List.foldl_cons,
        List.foldl_nil]
      cases a with
      | frames value | framesJoined value =>
          obtain ⟨n, hn⟩ := Option.isSome_iff_exists.mp ha
          simp [Argument.apply, Argument.path?, Argument.count?, hn]
      | _ => simp [Argument.apply, Argument.path?, Argument.count?]

/-- A scenario with what arguments change in it: the last number of frames replaces its own, its
images stay beside the frames if that is asked for, and it has no text input if that is asked
for. -/
def effective (args : List Argument) (s : Scenario) : Scenario :=
  { s with
    frames := (args.filterMap Argument.count?).getLast?.getD s.frames
    attach := s.attach || decide (.attach ∈ args)
    connected := s.connected && !decide (.disconnected ∈ args) }

/-- Arguments that are accepted and name a file lead to it. -/
theorem plan_words {path : String} (h : ∀ a ∈ args, a.IsReadable)
    (hpath : (args.filterMap Argument.path?).getLast? = some path) :
    plan (words args) = .load path (args.foldl (fun o a => a.apply o) .initial) := by
  rw [plan, parse_words h, foldl_apply h, hpath]
  rfl

theorem override_apply (h : ∀ a ∈ args, a.IsReadable) (s : Scenario) :
    override (args.foldl (fun o a => a.apply o) .initial) s = effective args s := by
  rw [foldl_apply h]
  simp only [override, effective, Options.initial, Option.or_none, Bool.false_or]

/-- What the program prints for the scenario in the file, if that is asked for. -/
theorem answer_words {path : String} {bytes : Option (List UInt8)} {s : Scenario}
    (h : ∀ a ∈ args, a.IsReadable) (hprint : .printScenario ∈ args)
    (hload : Scenario.load bytes = .ok s) :
    answer path (args.foldl (fun o a => a.apply o) .initial) bytes =
      ⟨(effective args s).toJson.pretty ++ "\n", "", 0⟩ := by
  rw [answer, hload]
  dsimp only
  rw [override_apply h, foldl_apply h, outputOf, if_pos (by simp [hprint])]
  rfl

end Captioning.CommandLine
