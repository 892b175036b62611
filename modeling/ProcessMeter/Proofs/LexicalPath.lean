import ProcessMeter.Proofs.Presence

/-!
# Where a path leads on its face

A path can be resolved without looking at any file: `.` stays, a name goes down, and `..` goes back
up over the last name. Joining a path to a directory walks on from where the directory leads. So a
directory formed by joining lies below its base unless the joined part climbs over it.
-/

namespace ProcessMeter

namespace Text

/-- The pieces between separators hold no separator. -/
theorem not_mem_of_mem_split {separator : Char} {t piece : Text} (h : piece ∈ split separator t) :
    separator ∉ piece := by
  induction t generalizing piece with
  | nil =>
    obtain rfl : piece = [] := by simpa [split, splitWhere] using h
    simp
  | cons c rest ih =>
    rw [split, splitWhere] at h
    by_cases hc : c = separator
    · subst hc
      simp only [beq_self_eq_true, if_true, List.mem_cons] at h
      rcases h with rfl | h
      · simp
      · exact ih h
    · obtain ⟨first, pieces, hpieces⟩ :=
        List.exists_cons_of_ne_nil (splitWhere_ne_nil (· == separator) rest)
      simp only [hpieces, beq_iff_eq, hc, if_false, List.mem_cons] at h
      rcases h with rfl | h
      · have hfirst : separator ∉ first :=
          ih (by rw [split, hpieces]; exact List.mem_cons_self)
        simpa [List.mem_cons, Ne.symm hc] using hfirst
      · exact ih (by rw [split, hpieces]; exact List.mem_cons_of_mem _ h)

/-- A text without separators is its only piece. -/
theorem split_of_not_mem {separator : Char} {t : Text} (h : separator ∉ t) :
    split separator t = [t] := by
  induction t with
  | nil => rfl
  | cons c rest ih =>
    obtain ⟨hc, hrest⟩ := not_or.mp (mt List.mem_cons.mpr h)
    have hpieces : splitWhere (· == separator) rest = [rest] := ih hrest
    rw [split, splitWhere, hpieces]
    simp [Ne.symm hc]

/-- A separator ends the pieces before it. -/
theorem split_append_cons (separator : Char) (s t : Text) :
    split separator (s ++ separator :: t) = split separator s ++ split separator t :=
  splitWhere_append (by simp) s t

/-- Pieces that are joined by separators are split again. -/
theorem split_join {separator : Char} {pieces : List Text} (hne : pieces ≠ [])
    (h : ∀ piece ∈ pieces, separator ∉ piece) :
    split separator (join [separator] pieces) = pieces := by
  induction pieces with
  | nil => exact absurd rfl hne
  | cons piece rest ih =>
    obtain ⟨hpiece, hrest⟩ := List.forall_mem_cons.mp h
    cases rest with
    | nil =>
      have hjoin : join [separator] [piece] = piece := by simp [join]
      rw [hjoin, split_of_not_mem hpiece]
    | cons other more =>
      rw [join_cons_cons, List.singleton_append, split_append_cons, split_of_not_mem hpiece,
        ih (by simp) hrest, List.singleton_append]

/-- Items that are joined by separators are found again. -/
theorem items_join {separator : Char} {pieces : List Text} (hnamed : [] ∉ pieces)
    (h : ∀ piece ∈ pieces, separator ∉ piece) :
    items separator (join [separator] pieces) = pieces := by
  by_cases hne : pieces = []
  · rw [hne]
    rfl
  · rw [items, split_join hne h, filter_nonempty_eq_self.mpr hnamed]

end Text

namespace Path

/-- The names and parents along a path. -/
def route (p : Path) : List Component :=
  ((Text.split '/' p).filter fun piece => !isIdle piece).map Component.ofPiece

/-- The place that a resolved place leads to by one more component. Above the root there is only
the root. -/
def enter : List Component → Component → List Component
  | _, .root => [.root]
  | place, .current => place
  | place, .name text => place ++ [.name text]
  | place, .parent =>
    match place.getLast? with
    | some (.name _) => place.dropLast
    | some .root => place
    | _ => place ++ [.parent]

/-- Where a path leads if no link is on its way. -/
def resolved (p : Path) : List Component := (components p).foldl enter []

/-- A directory lies strictly below another one: some names lead down to it. -/
def IsStrictlyBelow (directory base : Path) : Prop :=
  ∃ names : List Text, names ≠ [] ∧
    directory.resolved = base.resolved ++ names.map Component.name

/-- What lies strictly below has more components. -/
theorem IsStrictlyBelow.length_lt {directory base : Path} (h : directory.IsStrictlyBelow base) :
    base.resolved.length < directory.resolved.length := by
  obtain ⟨names, hnames, heq⟩ := h
  have hpos := List.length_pos_iff.mpr hnames
  rw [heq, List.length_append, List.length_map]
  omega

/-- A route through two texts with a slash between them is that through one and then the other. -/
theorem route_append (s t : Path) : route (s ++ '/' :: t) = route s ++ route t := by
  rw [route, Text.split, Text.splitWhere_append (by simp), List.filter_append, List.map_append]
  rfl

/-- The empty path has an empty route. -/
@[simp] theorem route_nil : route [] = [] := rfl

/-- A slash in front does not change the route. -/
theorem route_cons_slash (t : Path) : route ('/' :: t) = route t := route_append [] t

/-- A path is absolute exactly if it begins with a slash. -/
theorem isAbsolute_cons (c : Char) (rest : Path) :
    isAbsolute (c :: rest) = true ↔ c = '/' := by
  unfold isAbsolute
  split
  · next heq => simp [(List.cons.inj heq).1]
  · next hslash =>
    simp only [Bool.false_eq_true, false_iff]
    rintro rfl
    exact hslash rest rfl

/-- Where a path starts: at the root, or nowhere in particular. -/
def start (p : Path) : List Component := if isAbsolute p then [.root] else []

/-- A path is resolved by following its names and parents from where it starts. -/
theorem resolved_eq (p : Path) : p.resolved = (route p).foldl enter (start p) := by
  rw [resolved, components, List.foldl_append]
  change (route p).foldl enter _ = _
  congr 1
  cases p with
  | nil => rfl
  | cons c rest =>
    obtain ⟨first, pieces, hpieces⟩ :=
      List.exists_cons_of_ne_nil (Text.splitWhere_ne_nil (· == '/') rest)
    by_cases hc : c = '/'
    · subst hc
      simp [Text.split, Text.splitWhere, hpieces, start, isAbsolute, enter]
    · have hsplit : Text.split '/' (c :: rest) = (c :: first) :: pieces := by
        simp [Text.split, Text.splitWhere, hpieces, hc]
      rw [hsplit, start, if_neg (mt (isAbsolute_cons c rest).mp hc)]
      -- a leading `.` is no step
      split
      · next heq => simp at heq
      · rfl
      · rfl

/-- Joining a relative path to a base starts where the base does. -/
theorem start_join {rel : Path} (h : isAbsolute rel = false) (base : Path) :
    start (join base rel) = start base := by
  rw [join, h, if_neg Bool.false_ne_true]
  cases base with
  | nil =>
    simp only [List.getLast?_nil, start, h]
    rfl
  | cons c rest =>
    have hcons : ∀ more : Path, start (c :: rest ++ more) = start (c :: rest) := by
      intro more
      simp only [start, List.cons_append, isAbsolute_cons]
    split
    · next hlast => simp at hlast
    · exact hcons _
    · exact hcons _

/-- Joining a relative path to a base walks the base first. -/
theorem route_join {rel : Path} (h : isAbsolute rel = false) (base : Path) :
    route (join base rel) = route base ++ route rel := by
  rw [join, h, if_neg Bool.false_ne_true]
  split
  · next hlast =>
    rw [List.getLast?_eq_none_iff.mp hlast]
    rfl
  · next hlast =>
    obtain ⟨front, rfl⟩ := List.getLast?_eq_some_iff.mp hlast
    rw [List.append_assoc, List.singleton_append, route_append, route_append, route_nil,
      List.append_nil]
  · exact route_append base rel

/-- Taking pieces off an end that would be left out anyway leaves out the same. -/
private theorem filter_dropWhile {α : Type} (p : α → Bool) (l : List α) :
    (l.dropWhile p).filter (fun a => !p a) = l.filter fun a => !p a := by
  induction l with
  | nil => rfl
  | cons a rest ih =>
    by_cases ha : p a = true
    · simp [ha, ih]
    · simp [ha]

/-- No piece that leads anywhere is trimmed off. -/
private theorem filter_trimmed (pieces : List Text) :
    ((pieces.dropWhile isIdle).reverse.dropWhile isIdle).reverse.filter (fun t => !isIdle t) =
      pieces.filter fun t => !isIdle t := by
  rw [← List.reverse_inj, List.filter_reverse, filter_dropWhile, List.reverse_reverse,
    List.filter_reverse, filter_dropWhile]

/-- Joining pieces by slashes and walking the result walks the pieces. -/
private theorem route_joined (pieces : List Text) (h : ∀ piece ∈ pieces, '/' ∉ piece) :
    route (Text.join ['/'] pieces) =
      (pieces.filter fun piece => !isIdle piece).map Component.ofPiece := by
  by_cases hne : pieces = []
  · rw [hne]
    rfl
  · rw [route, Text.split_join hne h]

/-- The pieces between slashes without the idle ones at either end. -/
private def trimmed (p : Path) : List Text :=
  (((Text.split '/' p).dropWhile isIdle).reverse.dropWhile isIdle).reverse

/-- What is left after trimming begins what stands behind the idle pieces in front. -/
private theorem trimmed_isPrefix (p : Path) :
    trimmed p <+: (Text.split '/' p).dropWhile isIdle := by
  have hsuffix := List.dropWhile_suffix (l := ((Text.split '/' p).dropWhile isIdle).reverse) isIdle
  rw [← List.reverse_prefix, List.reverse_reverse] at hsuffix
  exact hsuffix

/-- The pieces that are left have no slash. -/
private theorem slash_not_mem_trimmed {p : Path} : ∀ piece ∈ trimmed p, '/' ∉ piece := by
  intro piece hpiece
  have hmem := (trimmed_isPrefix p).subset hpiece
  exact Text.not_mem_of_mem_split ((List.dropWhile_sublist _).subset hmem)

/-- What is left after idle pieces starts with a name or a parent. -/
private theorem isAbsolute_join_trimmed (p : Path) :
    isAbsolute (Text.join ['/'] (trimmed p)) = false := by
  have hslash := slash_not_mem_trimmed (p := p)
  have hprefix := trimmed_isPrefix p
  cases htrimmed : trimmed p with
  | nil => rfl
  | cons piece rest =>
    rw [htrimmed] at hslash hprefix
    obtain ⟨more, hmore⟩ := hprefix
    have hidle : isIdle piece = false := by
      have hhead := List.head?_dropWhile_not isIdle (Text.split '/' p)
      rw [← hmore] at hhead
      simpa using hhead
    cases piece with
    | nil => simp [isIdle] at hidle
    | cons c text =>
      have hc : c ≠ '/' := by
        rintro rfl
        exact hslash _ List.mem_cons_self List.mem_cons_self
      have hjoin : ∃ behind, Text.join ['/'] ((c :: text) :: rest) = c :: behind := by
        cases rest with
        | nil => exact ⟨text, by simp [Text.join]⟩
        | cons next more => exact ⟨_, by simp [Text.join, List.intersperse]; rfl⟩
      obtain ⟨behind, hbehind⟩ := hjoin
      rw [hbehind, ← Bool.not_eq_true, isAbsolute_cons]
      exact hc

/-- Taking the root off an absolute path leaves a relative one with the same names and parents. -/
theorem isAbsolute_withoutRoot {p : Path} (h : isAbsolute p = true) :
    isAbsolute (withoutRoot p) = false := by
  cases p with
  | nil => simp [isAbsolute] at h
  | cons c rest =>
    obtain rfl := (isAbsolute_cons c rest).mp h
    exact isAbsolute_join_trimmed rest

/-- An absolute path without its root has the same route. -/
theorem route_withoutRoot {p : Path} (h : isAbsolute p = true) :
    route (withoutRoot p) = route p := by
  cases p with
  | nil => simp [isAbsolute] at h
  | cons c rest =>
    obtain rfl := (isAbsolute_cons c rest).mp h
    have hjoined := route_joined (trimmed rest) slash_not_mem_trimmed
    rw [trimmed, filter_trimmed] at hjoined
    rw [route_cons_slash]
    exact hjoined

/-- Relocating an absolute path walks it from where the new base leads. -/
theorem resolved_below {p : Path} (h : isAbsolute p = true) (base : Path) :
    (below base p).resolved = (route p).foldl enter base.resolved := by
  have hrelative := isAbsolute_withoutRoot h
  rw [resolved_eq, below, route_join hrelative, start_join hrelative, List.foldl_append,
    ← resolved_eq, route_withoutRoot h]

/-- An absolute path without its root is resolved from nothing. -/
theorem resolved_withoutRoot {p : Path} (h : isAbsolute p = true) :
    (withoutRoot p).resolved = (route p).foldl enter [] := by
  rw [resolved_eq, route_withoutRoot h, start, isAbsolute_withoutRoot h]
  rfl

/-- A route that goes up `ups` times and then down along `names`. -/
def turns (ups : Nat) (names : List Text) : List Component :=
  List.replicate ups .parent ++ names.map .name

/-- From a name one level up leads back to where the name is. -/
private theorem enter_parent_of_name (place : List Component) (text : Text) :
    enter (place ++ [.name text]) .parent = place := by
  simp [enter]

/-- Above the root there is only the root. -/
private theorem enter_parent_of_root {place : List Component}
    (h : place.getLast? = some .root) : enter place .parent = place := by
  simp [enter, h]

/-- One level up from several levels up is one more level up. -/
private theorem enter_parent_of_parents (ups : Nat) :
    enter (List.replicate ups .parent) .parent = List.replicate (ups + 1) .parent := by
  cases ups with
  | zero => rfl
  | succ ups =>
    rw [List.replicate_succ' (n := ups + 1)]
    simp [enter, List.getLast?_replicate]

/-- Names lead down from any place. -/
theorem foldl_enter_names (place : List Component) (names : List Text) :
    (names.map Component.name).foldl enter place = place ++ names.map .name := by
  induction names generalizing place with
  | nil => simp
  | cons name rest ih =>
    rw [List.map_cons, List.foldl_cons, ih]
    simp [enter]

/-- A route that turns once leads up first and then down along its names. -/
private theorem foldl_enter_turns (place : List Component) (ups : Nat) (names : List Text) :
    (turns ups names).foldl enter place =
      (List.replicate ups .parent).foldl enter place ++ names.map .name := by
  rw [turns, List.foldl_append, foldl_enter_names]

/-- One more name or parent after a route which goes up and then down leads to such a route,
whatever the place it starts from. -/
private theorem exists_turns_enter (piece : Text) (ups : Nat) (names : List Text) :
    ∃ ups' names', enter (turns ups names) (Component.ofPiece piece) = turns ups' names' ∧
      ∀ place, enter ((turns ups names).foldl enter place) (Component.ofPiece piece) =
        (turns ups' names').foldl enter place := by
  by_cases hparent : piece = ['.', '.']
  · rw [Component.ofPiece, if_pos hparent]
    rcases List.eq_nil_or_concat names with rfl | ⟨front, last, rfl⟩
    · refine ⟨ups + 1, [], ?_, fun place => ?_⟩
      · simpa [turns] using enter_parent_of_parents ups
      · simp [turns, List.replicate_succ', List.foldl_append]
    · refine ⟨ups, front, ?_, fun place => ?_⟩
      · have h := enter_parent_of_name (turns ups front) last
        simpa [turns] using h
      · have h := enter_parent_of_name ((turns ups front).foldl enter place) last
        simpa [foldl_enter_turns] using h
  · rw [Component.ofPiece, if_neg hparent]
    refine ⟨ups, names ++ [piece], ?_, fun place => ?_⟩
    · simp [turns, enter]
    · simp [foldl_enter_turns, enter]

/-- Names and parents that follow a route which goes up and then down amount to such a route. -/
private theorem exists_turns_of_append (pieces : List Text) (ups : Nat) (names : List Text) :
    ∃ ups' names', (pieces.map Component.ofPiece).foldl enter (turns ups names) =
        turns ups' names' ∧
      ∀ place, (pieces.map Component.ofPiece).foldl enter ((turns ups names).foldl enter place) =
        (turns ups' names').foldl enter place := by
  induction pieces generalizing ups names with
  | nil => exact ⟨ups, names, rfl, fun place => rfl⟩
  | cons piece rest ih =>
    obtain ⟨ups', names', hturns, hplace⟩ := exists_turns_enter piece ups names
    obtain ⟨ups'', names'', hrest, hrestPlace⟩ := ih ups' names'
    refine ⟨ups'', names'', ?_, fun place => ?_⟩
    · rw [List.map_cons, List.foldl_cons, hturns, hrest]
    · rw [List.map_cons, List.foldl_cons, hplace, hrestPlace]

/-- Every route amounts to going up a number of times and then down along names. -/
theorem exists_turns (p : Path) : ∃ ups names, (route p).foldl enter [] = turns ups names ∧
    ∀ place, (route p).foldl enter place = (turns ups names).foldl enter place :=
  exists_turns_of_append _ 0 []

/-- A relative route leads below a place: it goes up over some last names of the place, or over all
of them up to the root and no further, and comes down along the same names and more. -/
def LeadsBelow (place route : List Component) : Prop :=
  ∃ ups base passed more, more ≠ [] ∧ place = base ++ passed.map Component.name ∧
    route = turns ups (passed ++ more) ∧
    (ups = passed.length ∨ passed.length ≤ ups ∧ base.getLast? = some .root)

/-- As many levels up as there are names leads back to where the names began. -/
private theorem climb_names (ups : Nat) (base : List Component) (passed : List Text)
    (h : passed.length = ups) :
    (List.replicate ups .parent).foldl enter (base ++ passed.map .name) = base := by
  induction ups generalizing passed with
  | zero => simp [List.length_eq_zero_iff.mp h]
  | succ ups ih =>
    rcases List.eq_nil_or_concat passed with rfl | ⟨front, last, rfl⟩
    · simp at h
    · have hfront : front.length = ups := by simpa using h
      have hup := enter_parent_of_name (base ++ front.map .name) last
      rw [List.append_assoc] at hup
      rw [List.replicate_succ, List.foldl_cons, List.concat_eq_append, List.map_append,
        List.map_singleton, hup]
      exact ih front hfront

/-- From the root every level up leads to the root. -/
private theorem climb_root {base : List Component} (h : base.getLast? = some .root) (ups : Nat) :
    (List.replicate ups .parent).foldl enter base = base := by
  induction ups with
  | zero => rfl
  | succ ups ih => rw [List.replicate_succ, List.foldl_cons, enter_parent_of_root h, ih]

/-- Where neither a name nor the root is last, going up leaves more parents. -/
private theorem climb_parents {base : List Component} (hroot : base.getLast? ≠ some .root)
    (hname : ∀ text, base.getLast? ≠ some (.name text)) (ups : Nat) :
    (List.replicate ups .parent).foldl enter base = base ++ List.replicate ups .parent := by
  induction ups generalizing base with
  | zero => simp
  | succ ups ih =>
    have hup : enter base .parent = base ++ [.parent] := by simp only [enter]
    rw [List.replicate_succ, List.foldl_cons, hup, ih (by simp) (by simp), List.append_assoc,
      List.singleton_append]

/-- Every place ends with some names, none or more, behind which there is no further one. -/
private theorem exists_last_names (place : List Component) :
    ∃ (base : List Component) (passed : List Text), place = base ++ passed.map .name ∧
      ∀ text, base.getLast? ≠ some (.name text) := by
  induction place with
  | nil => exact ⟨[], [], rfl, by simp⟩
  | cons c rest ih =>
    obtain ⟨base, passed, rfl, hlast⟩ := ih
    cases base with
    | cons d front => exact ⟨c :: d :: front, passed, rfl, by simpa using hlast⟩
    | nil =>
      cases c with
      | name text => exact ⟨[], text :: passed, rfl, by simp⟩
      | root => exact ⟨[.root], passed, rfl, by simp⟩
      | current => exact ⟨[.current], passed, rfl, by simp⟩
      | parent => exact ⟨[.parent], passed, rfl, by simp⟩

/-- Different names are different components. -/
private theorem map_name_inj {names other : List Text} :
    names.map Component.name = other.map .name ↔ names = other :=
  List.map_inj_right fun _ _ h => Component.name.inj h

/-- Following a route that leads below a place ends further down. -/
private theorem LeadsBelow.exists_names {place : List Component} {ups : Nat} {names : List Text}
    (h : LeadsBelow place (turns ups names)) :
    ∃ more : List Text, more ≠ [] ∧
      (turns ups names).foldl enter place = place ++ more.map .name := by
  obtain ⟨ups', base, passed, more, hmore, rfl, hturns, hups⟩ := h
  have hclimb :
      (List.replicate ups' .parent).foldl enter (base ++ passed.map .name) = base := by
    rcases hups with rfl | ⟨hups, hroot⟩
    · exact climb_names _ base passed rfl
    · obtain ⟨extra, rfl⟩ := Nat.exists_eq_add_of_le hups
      rw [← List.replicate_append_replicate, List.foldl_append, climb_names _ base passed rfl,
        climb_root hroot]
  refine ⟨more, hmore, ?_⟩
  rw [hturns, foldl_enter_turns, hclimb, List.map_append, List.append_assoc]

/-- A route leads below a place exactly if following it from there ends further down. -/
theorem leadsBelow_iff {place : List Component} {ups : Nat} {names : List Text} :
    LeadsBelow place (turns ups names) ↔
      ∃ more : List Text, more ≠ [] ∧
        (turns ups names).foldl enter place = place ++ more.map .name := by
  refine ⟨LeadsBelow.exists_names, ?_⟩
  rintro ⟨more, hmore, hlead⟩
  obtain ⟨base, passed, rfl, hlast⟩ := exists_last_names place
  rw [foldl_enter_turns] at hlead
  by_cases hups : ups ≤ passed.length
  · -- the route goes up over the last `ups` names
    obtain ⟨front, back, rfl, hback⟩ : ∃ front back, passed = front ++ back ∧ back.length = ups :=
      ⟨passed.take (passed.length - ups), passed.drop (passed.length - ups),
        (List.take_append_drop _ _).symm, by simp; omega⟩
    rw [List.map_append, ← List.append_assoc, climb_names ups _ back hback,
      List.append_assoc _ _ (more.map _), List.append_cancel_left_eq, ← List.map_append,
      map_name_inj] at hlead
    exact ⟨ups, base ++ front.map .name, back, more, hmore, by simp, by rw [hlead],
      Or.inl hback.symm⟩
  · obtain ⟨extra, rfl⟩ := Nat.exists_eq_add_of_le (Nat.le_of_not_le hups)
    rw [← List.replicate_append_replicate, List.foldl_append,
      climb_names _ base passed rfl] at hlead
    by_cases hroot : base.getLast? = some .root
    · rw [climb_root hroot, List.append_assoc, List.append_cancel_left_eq, ← List.map_append,
        map_name_inj] at hlead
      exact ⟨_, base, passed, more, hmore, rfl, by rw [hlead],
        Or.inr ⟨Nat.le_add_right _ _, hroot⟩⟩
    · -- the parents that are left are no names
      rw [climb_parents hroot hlast, List.append_assoc, List.append_assoc,
        List.append_cancel_left_eq, ← List.map_append] at hlead
      have hmem : Component.parent ∈ (passed ++ more).map Component.name := by
        rw [← hlead]
        exact List.mem_append_left _ (List.mem_replicate.mpr ⟨by omega, rfl⟩)
      simp at hmem

/-- An absolute path relocated below a base leads strictly below it exactly if the path, seen from
its root, does. -/
theorem isStrictlyBelow_below {p : Path} (h : isAbsolute p = true) (base : Path) :
    (below base p).IsStrictlyBelow base ↔ LeadsBelow base.resolved (withoutRoot p).resolved := by
  obtain ⟨ups, names, hroute, hplace⟩ := exists_turns p
  rw [IsStrictlyBelow, resolved_below h, resolved_withoutRoot h, hroute, hplace, leadsBelow_iff]

/-- A path whose pieces between slashes are names, if they are not empty. -/
def IsPlain (p : Path) : Prop := ∀ piece ∈ Text.split '/' p, piece ≠ ['.'] ∧ piece ≠ ['.', '.']

/-- A joined path is plain exactly if both parts are. -/
theorem isPlain_append {s t : Path} : IsPlain (s ++ '/' :: t) ↔ IsPlain s ∧ IsPlain t := by
  rw [IsPlain, Text.split_append_cons]
  exact List.forall_mem_append

/-- A plain path goes along its pieces that are not empty. -/
theorem route_of_isPlain {p : Path} (h : IsPlain p) :
    route p = (Text.items '/' p).map Component.name := by
  have hpieces : ((Text.split '/' p).filter fun piece => !isIdle piece) = Text.items '/' p := by
    refine List.filter_congr fun piece hpiece => ?_
    have hdot := (h piece hpiece).1
    simp [isIdle, hdot]
  rw [route, hpieces]
  refine List.map_congr_left fun piece hpiece => ?_
  have hup := (h piece (List.mem_filter.mp hpiece).1).2
  rw [Component.ofPiece, if_neg hup]

/-- A plain absolute path relocated below a base leads strictly below it, if it has a name at
all. -/
theorem IsPlain.isStrictlyBelow {p : Path} (hplain : IsPlain p) (h : isAbsolute p = true)
    (hnames : Text.items '/' p ≠ []) (base : Path) : (below base p).IsStrictlyBelow base :=
  ⟨Text.items '/' p, hnames, by
    rw [resolved_below h, route_of_isPlain hplain, foldl_enter_names]⟩

end Path

end ProcessMeter
