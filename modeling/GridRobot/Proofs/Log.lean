import GridRobot.Log
import GridRobot.Proofs.Data.Json.Charset
import GridRobot.Proofs.Data.Json.Decode
import GridRobot.Proofs.Data.Members
import GridRobot.Proofs.Result
import Mathlib.Algebra.Ring.Parity
import Mathlib.Data.List.Forall2
import Mathlib.Data.List.TakeWhile
import Mathlib.Tactic.Lemma

/-! Which events are written to the log, told from the names of their loggers alone, and how the log
is cut into lines. -/
namespace GridRobot.Log

/-- The name of the program's logger with two dots behind it, and maybe more. -/
def IsGapped (logger : String) : Prop := (ownLogger ++ "..").toList <+: logger.toList

instance (logger : String) : Decidable (IsGapped logger) := by
  unfold IsGapped
  infer_instance

/-- The threshold of a logger by the beginning of its name. -/
def levelByName (o : Options) (logger : String) : Int :=
  if o.verbose ∧ (logger = ownLogger ∨ (ownLogger ++ ".").toList <+: logger.toList) then debug
  else warning

/-- How many dots there are in a name right behind as many characters as the name of the program's
logger has. -/
def dots (logger : String) : Nat :=
  ((logger.toList.drop ownLogger.length).takeWhile (· == '.')).length

/-- The threshold of a logger by the number of dots behind the name of the program's logger. -/
def levelByDots (o : Options) (logger : String) : Int :=
  if o.verbose ∧ (logger = ownLogger ∨ ownLogger.toList <+: logger.toList ∧ Odd (dots logger)) then
    debug
  else warning

/-- Nothing but dots behind the name of the program's logger. -/
def IsDotted (logger : String) : Prop :=
  ∃ k, 1 ≤ k ∧ logger.toList = ownLogger.toList ++ List.replicate k '.'

section Hierarchy

variable {known : List String} {logger : String} {c : Char} {r t : List Char}

lemma leadsToOwn_dot : leadsToOwn known ('.' :: c :: r) =
    if String.ofList (c :: r).reverse = ownLogger then true
    else if String.ofList (c :: r).reverse ∈ known then leadsToOwn known (c :: r)
    else leadsToOwn known r := by
  rw [leadsToOwn]

lemma leadsToOwn_cons (plain : c ≠ '.') : leadsToOwn known (c :: r) = leadsToOwn known r := by
  rw [leadsToOwn]
  exact fun _ _ dot => absurd dot plain

lemma reverse_of_ofList_eq {name : String} (same : String.ofList r.reverse = name) :
    r = name.toList.reverse := by
  rw [← same, String.toList_ofList, List.reverse_reverse]

lemma ofList_ne_ownLogger (inside : '.' ∈ r) : String.ofList r.reverse ≠ ownLogger := by
  intro same
  rw [reverse_of_ofList_eq same] at inside
  exact absurd inside (by decide)

/-- A way up leads to nothing but a name with a dot behind it. -/
theorem suffix_of_leadsToOwn {cs : List Char} (leads : leadsToOwn known cs = true) :
    '.' :: ownLogger.toList.reverse <:+ cs := by
  fun_induction leadsToOwn known cs with
  | case1 c r above same =>
    have whole : c :: r = ownLogger.toList.reverse := reverse_of_ofList_eq same
    exact whole ▸ List.suffix_rfl
  | case2 c r above other found ih => exact (ih leads).trans (List.suffix_cons _ _)
  | case3 c r above other unknown ih =>
    exact (ih leads).trans ((List.suffix_cons c r).trans (List.suffix_cons _ _))
  | case4 c r other ih => exact (ih leads).trans (List.suffix_cons _ _)
  | case5 => cases leads

/-- Whatever loggers are known, the way up comes by the last of dots that follow on each other. -/
theorem leadsToOwn_append (known : List String) (t : List Char) :
    ∀ q : List Char, q.getLast? ≠ some '.' →
      leadsToOwn known (q ++ '.' :: t) = leadsToOwn known ('.' :: t)
  | [], _ => rfl
  | [c], edge => leadsToOwn_cons fun dot => edge (congrArg some dot)
  | x :: c :: q, edge => by
    have later : (c :: q).getLast? ≠ some '.' := by rwa [List.getLast?_cons_cons] at edge
    by_cases dot : x = '.'
    · subst dot
      have inside : '.' ∈ c :: (q ++ '.' :: t) := by simp
      rw [List.cons_append, List.cons_append, leadsToOwn_dot, if_neg (ofList_ne_ownLogger inside)]
      split
      · exact leadsToOwn_append known t (c :: q) later
      · refine leadsToOwn_append known t q fun last => later ?_
        rw [List.getLast?_cons, last]
        rfl
    · rw [List.cons_append, leadsToOwn_cons dot]
      exact leadsToOwn_append known t (c :: q) later

/-- Where only dots are left, every other one is passed over, unless a logger is known by them. -/
theorem leadsToOwn_dots : ∀ k, k ≤ 1 ∨ (∀ l ∈ known, ¬ IsDotted l) →
    leadsToOwn known (List.replicate k '.' ++ ownLogger.toList.reverse) = decide (Odd k)
  | 0, _ => rfl
  | 1, _ => rfl
  | k + 2, clear => by
    have unknown := clear.resolve_left (by omega)
    have above : ('.' :: (List.replicate k '.' ++ ownLogger.toList.reverse)).reverse =
        ownLogger.toList ++ List.replicate (k + 1) '.' := by
      simp [List.replicate_succ']
    have dotted : IsDotted
        (String.ofList ('.' :: (List.replicate k '.' ++ ownLogger.toList.reverse)).reverse) :=
      ⟨k + 1, by omega, by rw [above, String.toList_ofList]⟩
    have parity : Odd (k + 2) ↔ Odd k := by simp [Nat.odd_add]
    rw [List.replicate_succ, List.replicate_succ, List.cons_append, List.cons_append,
      leadsToOwn_dot, if_neg (ofList_ne_ownLogger List.mem_cons_self),
      if_neg (fun found => unknown _ found dotted),
      leadsToOwn_dots k (.inr unknown), decide_eq_decide.mpr parity]

/-- Behind the name of the program's logger stand some dots, and then something else. -/
lemma eq_append_dots (begins : ownLogger.toList <+: logger.toList) :
    ∃ rest, rest.head? ≠ some '.' ∧
      logger.toList = ownLogger.toList ++ (List.replicate (dots logger) '.' ++ rest) := by
  obtain ⟨behind, split⟩ := begins
  have drop : logger.toList.drop ownLogger.length = behind := by
    rw [← split]
    exact List.drop_left
  have taken : ∀ c ∈ behind.takeWhile (· == '.'), c = '.' := by
    intro c hc
    have dot := List.mem_takeWhile_imp (p := (· == '.')) hc
    exact beq_iff_eq.mp dot
  have count : behind.takeWhile (· == '.') = List.replicate (dots logger) '.' := by
    rw [List.eq_replicate_iff, dots, drop]
    exact ⟨rfl, taken⟩
  refine ⟨behind.dropWhile (· == '.'), fun dot => ?_, ?_⟩
  · have plain := List.head?_dropWhile_not (· == '.') behind
    rw [dot] at plain
    exact absurd plain (by decide)
  · rw [← count, List.takeWhile_append_dropWhile, split]

lemma begins_of_leadsToOwn (leads : leadsToOwn known logger.toList.reverse = true) :
    (ownLogger ++ ".").toList <+: logger.toList := by
  rw [← List.reverse_suffix]
  exact suffix_of_leadsToOwn leads

lemma own_prefix (dotted : (ownLogger ++ ".").toList <+: logger.toList) :
    ownLogger.toList <+: logger.toList :=
  (List.prefix_append ownLogger.toList ['.']).trans dotted

/-- A name begins with as many dots behind that of the program's logger as are counted, or fewer. -/
lemma prefix_dots_iff (begins : ownLogger.toList <+: logger.toList) (k : ℕ) :
    ownLogger.toList ++ List.replicate k '.' <+: logger.toList ↔ k ≤ dots logger := by
  obtain ⟨rest, plain, split⟩ := eq_append_dots begins
  rw [split, List.prefix_append_right_inj]
  constructor
  · intro dotted
    by_contra! more
    obtain ⟨j, rfl⟩ := Nat.exists_eq_add_of_lt more
    rw [Nat.add_assoc, List.replicate_add, List.prefix_append_right_inj] at dotted
    obtain ⟨behind, rfl⟩ := dotted
    exact plain rfl
  · intro fewer
    obtain ⟨j, more⟩ := Nat.exists_eq_add_of_le fewer
    rw [more, List.replicate_add, List.append_assoc]
    exact List.prefix_append _ _

lemma leadsToOwn_reverse (begins : ownLogger.toList <+: logger.toList)
    (clear : dots logger ≤ 1 ∨ ∀ l ∈ known, ¬ IsDotted l) :
    leadsToOwn known logger.toList.reverse = decide (Odd (dots logger)) := by
  cases count : dots logger with
  | zero =>
    refine Bool.eq_false_iff.mpr fun leads => ?_
    have one := (prefix_dots_iff begins 1).mp (begins_of_leadsToOwn leads)
    omega
  | succ k =>
    obtain ⟨rest, plain, split⟩ := eq_append_dots begins
    have edge : rest.reverse.getLast? ≠ some '.' := by rwa [List.getLast?_reverse]
    rw [count] at clear
    rw [split, List.reverse_append, List.reverse_append, List.reverse_replicate,
      List.append_assoc, count, List.replicate_succ, List.cons_append,
      leadsToOwn_append _ _ _ edge, ← List.cons_append, ← List.replicate_succ,
      leadsToOwn_dots _ clear]

lemma dots_le_one (whole : ¬ IsGapped logger) (begins : ownLogger.toList <+: logger.toList) :
    dots logger ≤ 1 := by
  by_contra! more
  exact whole ((prefix_dots_iff begins 2).mpr more)

/-- Which loggers are the program's own depends on nothing but the dots behind its name, where there
is no gap or no logger is known by dots alone. -/
theorem isOwn_iff (clear : ¬ IsGapped logger ∨ ∀ l ∈ known, ¬ IsDotted l) :
    IsOwn known logger ↔
      logger = ownLogger ∨ ownLogger.toList <+: logger.toList ∧ Odd (dots logger) := by
  have parity (begins : ownLogger.toList <+: logger.toList) :=
    leadsToOwn_reverse begins (clear.imp_left fun whole => dots_le_one whole begins)
  rw [IsOwn]
  refine or_congr_right ⟨fun leads => ?_, fun ⟨begins, odd⟩ => ?_⟩
  · have begins := own_prefix (begins_of_leadsToOwn leads)
    rw [parity begins] at leads
    exact ⟨begins, decide_eq_true_iff.mp leads⟩
  · rw [parity begins]
    exact decide_eq_true_iff.mpr odd

/-- Without a gap a dot behind the name of the program's logger is the only one there. -/
lemma odd_dots_iff (whole : ¬ IsGapped logger) :
    ownLogger.toList <+: logger.toList ∧ Odd (dots logger) ↔
      (ownLogger ++ ".").toList <+: logger.toList := by
  constructor
  · rintro ⟨begins, j, odd⟩
    exact (prefix_dots_iff begins 1).mpr (by omega)
  · intro dotted
    have begins := own_prefix dotted
    have one : dots logger = 1 :=
      Nat.le_antisymm (dots_le_one whole begins) ((prefix_dots_iff begins 1).mp dotted)
    exact ⟨begins, one ▸ odd_one⟩

end Hierarchy

section Thresholds

variable {o : Options} {known : List String} {logger : String}

lemma threshold_eq_levelByDots (clear : ¬ IsGapped logger ∨ ∀ l ∈ known, ¬ IsDotted l) :
    threshold o known logger = levelByDots o logger := by
  simp only [threshold, levelByDots, isOwn_iff clear, Options.ownLevel]
  cases o.verbose <;> simp

lemma levelByDots_eq_levelByName (whole : ¬ IsGapped logger) :
    levelByDots o logger = levelByName o logger := by
  simp only [levelByDots, levelByName, odd_dots_iff whole]

/-- No logger lets more through than its name does. -/
lemma levelByName_le_threshold : levelByName o logger ≤ threshold o known logger := by
  have order : debug ≤ warning := by decide
  by_cases own : IsOwn known logger
  · have named := own.imp_right begins_of_leadsToOwn
    simp only [levelByName, threshold, Options.ownLevel, own, named, and_true, if_true, Int.le_refl]
  · rw [levelByName, threshold, if_neg own]
    split
    · exact order
    · exact Int.le_refl warning

lemma debug_le_levelByName : debug ≤ levelByName o logger := by
  have order : debug ≤ warning := by decide
  rw [levelByName]
  split
  · exact Int.le_refl debug
  · exact order

/-- What is as grave as a warning is never held back. -/
lemma threshold_le_warning : threshold o known logger ≤ warning := by
  have order : debug ≤ warning := by decide
  rw [threshold, Options.ownLevel]
  split_ifs
  · exact order
  · exact Int.le_refl warning
  · exact Int.le_refl warning

lemma threshold_of_quiet (quiet : o.verbose = false) : threshold o known logger = warning := by
  rw [threshold, Options.ownLevel, quiet]
  exact ite_self warning

end Thresholds

section Filtering

variable {o : Options} {earlier events es all : List Event} {e : Event}

lemma knownFor_subset : knownFor earlier e ⊆ earlier.map Event.logger :=
  List.map_subset _ (List.takeWhile_sublist _).subset

lemma writtenAfter_cons : writtenAfter o earlier (e :: es) =
    if Writes o earlier e then e :: writtenAfter o (earlier ++ [e]) es
    else writtenAfter o (earlier ++ [e]) es := by
  rw [writtenAfter]

/-- No event is written twice or out of order. -/
theorem writtenAfter_sublist : (writtenAfter o earlier es).Sublist es := by
  induction es generalizing earlier with
  | nil => exact List.Sublist.slnil
  | cons e es ih =>
    rw [writtenAfter_cons]
    split
    · exact ih.cons_cons e
    · exact ih.cons e

lemma writes_of_mem (he : e ∈ writtenAfter o earlier es) : ∃ before, Writes o before e := by
  induction es generalizing earlier with
  | nil => cases he
  | cons x es ih =>
    rw [writtenAfter_cons] at he
    split at he
    · rename_i here
      rcases List.mem_cons.mp he with rfl | later
      · exact ⟨earlier, here⟩
      · exact ih later
    · exact ih he

/-- Where a property of its own tells of an event whether it is written, whatever events came
before, the events that are written are those with the property. -/
theorem filter_writtenAfter {Asked Told : Event → Prop} [DecidablePred Asked] [DecidablePred Told]
    (told : ∀ before ⊆ all, ∀ e ∈ all, Asked e → (Writes o before e ↔ Told e))
    (before : earlier ⊆ all) (now : es ⊆ all) :
    (writtenAfter o earlier es).filter (fun e => Asked e) =
      es.filter fun e => Asked e ∧ Told e := by
  induction es generalizing earlier with
  | nil => rfl
  | cons e es ih =>
    obtain ⟨here, later⟩ := List.cons_subset.mp now
    have known : earlier ++ [e] ⊆ all :=
      List.append_subset.mpr ⟨before, List.cons_subset.mpr ⟨here, List.nil_subset _⟩⟩
    have rest := ih known later
    rw [writtenAfter_cons, List.filter_cons]
    by_cases asked : Asked e
    · by_cases writes : Writes o earlier e
      · have property := (told earlier before e here asked).mp writes
        simp [writes, asked, property, rest]
      · have property := (told earlier before e here asked).not.mp writes
        simp [writes, asked, property, rest]
    · by_cases writes : Writes o earlier e
      · simp [writes, asked, rest]
      · simp [writes, asked, rest]

theorem written_eq_filter {Told : Event → Prop} [DecidablePred Told]
    (told : ∀ before ⊆ events, ∀ e ∈ events, (Writes o before e ↔ Told e)) :
    written o events = events.filter fun e => Told e := by
  have kept : (written o events).filter (fun _ => True) =
      events.filter fun e => True ∧ Told e :=
    filter_writtenAfter (fun before sub e he _ => told before sub e he) (List.nil_subset events)
      (List.Subset.refl events)
  simpa only [decide_true, List.filter_true, true_and] using kept

/-- Without details only what is as grave as a warning is written, by any logger. -/
theorem written_of_quiet (quiet : o.verbose = false) (events : List Event) :
    written o events = events.filter fun e => warning ≤ e.level :=
  written_eq_filter fun before _ e _ => by rw [Writes, threshold_of_quiet quiet]

end Filtering

/-- The events that are kept of those that came. -/
structure Filters (o : Options) (events kept : List Event) : Prop where
  sublist : kept.Sublist events
  /-- Names without a gap tell by how they begin. -/
  byName : (kept.filter fun e => ¬ IsGapped e.logger) =
    events.filter fun e => ¬ IsGapped e.logger ∧ levelByName o e.logger ≤ e.level
  /-- All names tell by their dots, unless one of them has only dots behind the program's name. -/
  byDots : (∀ e ∈ events, ¬ IsDotted e.logger) →
    kept = events.filter fun e => levelByDots o e.logger ≤ e.level
  warned : (kept.filter fun e => warning ≤ e.level) = events.filter fun e => warning ≤ e.level
  least : ∀ e ∈ kept, levelByName o e.logger ≤ e.level

theorem filters_written (o : Options) (events : List Event) :
    Filters o events (written o events) where
  sublist := writtenAfter_sublist
  byName := by
    refine filter_writtenAfter (fun before _ e _ whole => ?_) (List.nil_subset events)
      (List.Subset.refl events)
    rw [Writes, threshold_eq_levelByDots (.inl whole), levelByDots_eq_levelByName whole]
  byDots undotted := by
    refine written_eq_filter fun before sub e _ => ?_
    have unknown : ∀ l ∈ knownFor before e, ¬ IsDotted l := by
      intro l hl
      obtain ⟨x, hx, rfl⟩ := List.mem_map.mp (knownFor_subset hl)
      exact undotted x (sub hx)
    rw [Writes, threshold_eq_levelByDots (.inr unknown)]
  warned := by
    have kept : (written o events).filter (fun e => warning ≤ e.level) =
        events.filter fun e => warning ≤ e.level ∧ True :=
      filter_writtenAfter
        (fun _ _ _ _ grave => iff_true_intro (Int.le_trans threshold_le_warning grave))
        (List.nil_subset events) (List.Subset.refl events)
    simpa only [and_true] using kept
  least e he := by
    obtain ⟨before, writes⟩ := writes_of_mem he
    exact Int.le_trans levelByName_le_threshold writes

/-- One line of graphic ASCII that tells in JSON what an event says and where it came from. -/
structure Holds (e : Event) (object : String) : Prop where
  graphic : ∀ c ∈ object.toList, 0x20 ≤ c.toNat ∧ c.toNat < 0x7f
  decoded : ∃ ms, Json.decode? object = some (.object ms) ∧
    Members.get? ms "event" = some (.text e.message) ∧
      Members.get? ms "logger" = some (.text e.logger)

section Lines

variable {o : Options} {time : String} {events : List Event} {e : Event}

/-- What stands for an event in a log of JSON, without the newline. -/
def object (time : String) (e : Event) : String := Json.toText .log (.object (members time e))

lemma line_of_json (json : o.json = true) : line o time e = object time e ++ "\n" := by
  rw [line, if_pos json, jsonLine, object, Json.toText, String.ofList_append]

lemma isPlain_members : (Data.object (members time e)).IsPlain none :=
  ⟨(by decide : ["event", "level", "logger", "timestamp"].Nodup), trivial, trivial, trivial,
    trivial, trivial⟩

theorem holds_object (named : e.logger ≠ "") : Holds e (object time e) where
  graphic c hc := by
    rw [object, Json.toText, String.toList_ofList] at hc
    exact Json.log_within.write _ 0 isPlain_members c hc
  decoded := by
    refine ⟨members time e, ?_, rfl, ?_⟩
    · exact Json.decode?_toText (Json.Style.standard_of_mem _ (by simp)) isPlain_members
    · rw [members, loggerName, if_neg named]
      rfl

lemma recorded_eq_ok_iff {l : String} :
    recorded o time e = .ok l ↔ e.level.natAbs < 10 ^ Decimal.digitLimit ∧ line o time e = l := by
  rw [recorded, map_eq_ok_iff, ← Decimal.write_eq_ok_iff, exists_and_right]

/-- The lines of the events that are written follow on each other, if each level can be told. -/
theorem text_eq_ok_iff {t : String} : text o time events = .ok t ↔
    (∀ e ∈ written o events, e.level.natAbs < 10 ^ Decimal.digitLimit) ∧
      t = String.join ((written o events).map (line o time)) := by
  simp only [text, map_eq_ok_iff, mapM_eq_ok_iff, recorded_eq_ok_iff, List.forall₂_and_left]
  constructor
  · rintro ⟨ls, ⟨short, each⟩, rfl⟩
    rw [← List.forall₂_map_left_iff, List.forall₂_eq_eq_eq] at each
    exact ⟨short, each ▸ rfl⟩
  · rintro ⟨short, rfl⟩
    refine ⟨(written o events).map (line o time), ⟨short, ?_⟩, rfl⟩
    rw [← List.forall₂_map_left_iff, List.forall₂_eq_eq_eq]

/-- Only a level that is too long stops the log, and such a level is never held back. -/
theorem text_ok_iff : (∃ t, text o time events = .ok t) ↔
    ∀ e ∈ events, e.level < (10 ^ Decimal.digitLimit : Nat) := by
  have filters := filters_written o events
  have least : (0 : Int) ≤ debug := by decide
  have most : warning ≤ (10 ^ Decimal.digitLimit : Nat) := by decide +kernel
  simp only [text_eq_ok_iff, exists_and_left, exists_eq, and_true]
  constructor
  · intro short e he
    by_contra longer
    have long := Int.not_lt.mp longer
    have kept : e ∈ written o events := by
      have grave : e ∈ events.filter fun e => warning ≤ e.level :=
        List.mem_filter.mpr ⟨he, decide_eq_true (Int.le_trans most long)⟩
      rw [← filters.warned] at grave
      exact List.mem_of_mem_filter grave
    have bound := short e kept
    omega
  · intro short e he
    have bound := short e (filters.sublist.subset he)
    have above : debug ≤ e.level := Int.le_trans debug_le_levelByName (filters.least e he)
    omega

/-- A text that has a line break at its end, and no other. -/
def IsLine (s : String) : Prop := ∃ body, '\n' ∉ body ∧ s.toList = body ++ ['\n']

lemma newline_not_mem_levelName (level : Int) : '\n' ∉ (levelName level).toList := by
  have names : ∀ n ∈ levelNames, '\n' ∉ n.2.toList := by decide
  rw [levelName]
  split
  · rename_i n found
    exact names n (List.mem_of_find?_eq_some found)
  · rw [String.toList_append, List.mem_append, not_or]
    refine ⟨by decide, fun broken => ?_⟩
    rw [String.toList_ofList] at broken
    exact absurd (Json.isGraphic_ofInt level '\n' broken) (by decide)

lemma newline_not_mem_padded (width : ℕ) {s : String} (unbroken : '\n' ∉ s.toList) :
    '\n' ∉ padded width s := by
  rw [padded, List.mem_append, not_or]
  exact ⟨unbroken, fun blank => absurd (List.eq_of_mem_replicate blank) (by decide)⟩

/-- An event that has no line break in it is logged on one line. -/
theorem isLine_line (o : Options) (timed : '\n' ∉ time.toList)
    (spoken : '\n' ∉ e.message.toList) (named : '\n' ∉ e.logger.toList) :
    IsLine (line o time e) := by
  have logger : '\n' ∉ (loggerName e.logger).toList := by
    rw [loggerName]
    split
    · decide
    · exact named
  refine ⟨if o.json then jsonLine time e else plainLine time e, ?_, String.toList_ofList⟩
  split
  · intro broken
    exact absurd (Json.log_within.write _ 0 isPlain_members '\n' broken) (by decide)
  · have level := newline_not_mem_padded 9 (newline_not_mem_levelName e.level)
    have message := newline_not_mem_padded 30 spoken
    have brackets : '\n' ∉ " [".toList ∧ '\n' ∉ "] ".toList ∧ '\n' ∉ "]".toList := by decide
    simp only [plainLine, List.mem_append, timed, level, message, logger, brackets, or_self,
      not_false_eq_true]

/-- In JSON a log has one line for each event that is kept, and the names of the loggers tell which
events those are. -/
theorem text_of_events (o : Options) (time : String) (events : List Event) (json : o.json = true)
    (named : ∀ e ∈ events, e.logger ≠ "") :
    Filters o events (written o events) ∧
    ((∃ t, text o time events = .ok t) ↔
      ∀ e ∈ events, e.level < (10 ^ Decimal.digitLimit : Nat)) ∧
    ∀ t, text o time events = .ok t → ∃ objects, List.Forall₂ Holds (written o events) objects ∧
      t = String.join (objects.map (· ++ "\n")) := by
  have filters := filters_written o events
  refine ⟨filters, text_ok_iff, fun t done => ⟨(written o events).map (object time), ?_, ?_⟩⟩
  · rw [List.forall₂_map_right_iff, List.forall₂_same]
    exact fun e he => holds_object (named e (filters.sublist.subset he))
  · rw [(text_eq_ok_iff.mp done).2, List.map_map]
    exact congrArg String.join (List.map_congr_left fun e _ => line_of_json json)

/-- Among loggers of several names, with a message on two lines, details are logged. -/
theorem text_of_events_of_loggers :
    let o : Options := ⟨true, true⟩
    let events : List Event := [⟨"toyrobot.a", debug, "one\ntwo \u03bb"⟩, ⟨"toyrobotx", debug, "m"⟩,
      ⟨"toyrobot..x", debug, "m"⟩, ⟨"other", warning, "\x7f"⟩]
    (∀ e ∈ events, e.logger ≠ "") ∧ Filters o events (written o events) ∧
      ∃ t, text o "now" events = .ok t ∧ ∃ objects, List.Forall₂ Holds (written o events) objects ∧
        t = String.join (objects.map (· ++ "\n")) := by
  intro o events
  have named : ∀ e ∈ events, e.logger ≠ "" := by decide
  have short : ∀ e ∈ events, e.level < (10 ^ Decimal.digitLimit : Nat) := by decide +kernel
  obtain ⟨filters, ok, lines⟩ := text_of_events o "now" events rfl named
  obtain ⟨t, done⟩ := ok.mpr short
  exact ⟨named, filters, t, done, lines t done⟩

/-- Two dots behind the name of the program's logger keep its level from the logger below it, if
there is no logger between; and a level that is too long is neither held back nor written. -/
theorem not_filtered_by_name :
    let o : Options := ⟨true, true⟩
    let e : Event := ⟨"toyrobot..x", debug, "m"⟩
    let long : Event := ⟨"toyrobot", (10 ^ Decimal.digitLimit : Nat), "m"⟩
    ([e].filter fun e => levelByName o e.logger ≤ e.level) = [e] ∧ written o [e] = [] ∧
      text o "now" [e] = .ok "" ∧ ¬ ∃ t, text o "now" [long] = .ok t := by
  intro o e long
  have none : written o [e] = [] := by decide
  refine ⟨by decide, none, ?_, ?_⟩
  · rw [text, none]
    rfl
  · rw [text_ok_iff]
    exact fun short => absurd (short long (List.mem_singleton_self long)) (Int.lt_irrefl _)

end Lines
end GridRobot.Log
