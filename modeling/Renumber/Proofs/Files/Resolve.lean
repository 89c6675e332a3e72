import Renumber.Proofs.Fallible
import Renumber.Proofs.Files.Tree

/-!
# Where paths lead, and what a change to the files leaves alone

A tree becomes another one by making directories where nothing was and writing files at some
addresses (`Node.Becomes`).  What was there stays there, and every path leads where it led
(`Node.Becomes.locate`).  Making a directory writes no file (`Node.makeDirectory_becomes`); writing
a file at a path that ends in a name changes what is at the address which the path leads to
afterwards, and nothing else (`Node.write_becomes`).
-/

namespace Renumber

/-! ## Paths that end in a name -/

namespace Path

/-- The last segment of the path is a name. -/
def IsNamed (p : Path) : Prop := ∃ above name, p.segments = above ++ [name] ∧ IsName name

theorem join_isNamed (p : Path) {names : List Name} (hnil : names ≠ [])
    (hnames : ∀ name ∈ names, IsName name) : (p.join names).IsNamed := by
  obtain ⟨front, name, rfl⟩ := List.eq_nil_or_concat' names |>.resolve_left hnil
  have hname : IsName name := hnames name (by simp)
  unfold join
  split
  · exact ⟨p.segments.dropLast ++ front, name, (List.append_assoc ..).symm, hname⟩
  · exact ⟨p.segments ++ front, name, (List.append_assoc ..).symm, hname⟩

/-- Leading on through names does not make a path absolute. -/
theorem isAbsolute_join {p : Path} (hempty : p.isEmpty = false) {names : List Name}
    (hnil : names ≠ []) (hnames : ∀ name ∈ names, IsName name) :
    (p.join names).isAbsolute = p.isAbsolute := by
  obtain ⟨name, rest, rfl⟩ := List.exists_cons_of_ne_nil hnil
  have hname : name ≠ "" := (hnames name List.mem_cons_self).1
  obtain ⟨segments⟩ := p
  match segments with
  | [] => simp [join, isAbsolute, hname]
  | [only] =>
    have honly : only ≠ "" := by simpa [isEmpty] using hempty
    simp [join, isAbsolute, honly]
  | first :: second :: rest =>
    unfold join
    split <;> simp [isAbsolute]

theorem exists_join (p : Path) : ∃ front, ∀ names, p.join names = ⟨front ++ names⟩ := by
  unfold join
  split
  · exact ⟨p.segments.dropLast, fun _ => rfl⟩
  · exact ⟨p.segments, fun _ => rfl⟩

/-- Which names a path ends in does not make it absolute. -/
theorem isAbsolute_append (front : List Name) {names : List Name} (hnil : names ≠ [])
    (hnames : ∀ name ∈ names, IsName name) :
    (⟨front ++ names⟩ : Path).isAbsolute = (front.head? == some "") := by
  obtain ⟨name, rest, rfl⟩ := List.exists_cons_of_ne_nil hnil
  have hname : name ≠ "" := (hnames name List.mem_cons_self).1
  cases front <;> simp [isAbsolute, hname]

theorem isName_of_fileName? {p : Path} {name : Name} (h : p.fileName? = some name) :
    IsName name := by
  unfold fileName? at h
  split at h
  · split at h
    · cases h
    · rename_i hname
      obtain rfl := Option.some.inj h
      rw [not_or, not_or] at hname
      exact hname
  · cases h

end Path

namespace Node

/-! ## Trees that become other trees -/

/-- What can become of what is at an address, where a file may be written if it is `allowed`. -/
inductive Change (allowed : Prop) : Option Kind → Option Kind → Prop where
  | same (k : Option Kind) : Change allowed k k
  | made : Change allowed none (some .directory)
  | written {k : Option Kind} (contents : List UInt8) (h : allowed) (hk : k ≠ some .directory) :
    Change allowed k (some (.file contents))

namespace Change

variable {allowed allowed' : Prop} {k k' k'' : Option Kind}

theorem mono (himp : allowed → allowed') (h : Change allowed k k') : Change allowed' k k' := by
  cases h with
  | same => exact same k
  | made => exact made
  | written contents h hk => exact written contents (himp h) hk

theorem trans (h : Change allowed k k') (h' : Change allowed k' k'') : Change allowed k k'' := by
  cases h' with
  | same => exact h
  | made =>
    cases h with
    | same => exact made
  | written contents ha hk =>
    refine written contents ha fun hdir => ?_
    subst hdir
    cases h with
    | same => exact hk rfl
    | written _ _ hne => exact hne rfl

theorem directory (h : Change allowed (some .directory) k') : k' = some .directory := by
  cases h with
  | same => rfl
  | written _ _ hne => exact absurd rfl hne

theorem present (h : Change allowed k k') (hk : k ≠ none) : k' ≠ none := by
  cases h with
  | same => exact hk
  | made => exact absurd rfl hk
  | written => exact Option.some_ne_none _

/-- What is not written stays, but for directories that are made. -/
theorem of_not_allowed (h : Change allowed k k') (hnot : ¬ allowed) :
    k' = k ∨ k = none ∧ k' = some .directory := by
  cases h with
  | same => exact .inl rfl
  | made => exact .inr ⟨rfl, rfl⟩
  | written _ ha => exact absurd ha hnot

end Change

/-- The tree becomes another one by making directories where nothing was, and writing files at the
addresses in `P`. -/
def Becomes (P : List Name → Prop) (root root' : Node) : Prop :=
  ∀ a, Change (P a) (root.kind? a) (root'.kind? a)

namespace Becomes

variable {P Q : List Name → Prop} {root root' root'' : Node}

theorem refl (P : List Name → Prop) (root : Node) : Becomes P root root := fun _ => .same _

theorem mono (himp : ∀ a, P a → Q a) (h : Becomes P root root') : Becomes Q root root' :=
  fun a => (h a).mono (himp a)

theorem trans (h : Becomes P root root') (h' : Becomes P root' root'') : Becomes P root root'' :=
  fun a => (h a).trans (h' a)

theorem kind?_eq_directory (h : Becomes P root root') {a : List Name}
    (ha : root.kind? a = some .directory) : root'.kind? a = some .directory :=
  (ha ▸ h a).directory

theorem kind?_ne_none (h : Becomes P root root') {a : List Name} (ha : root.kind? a ≠ none) :
    root'.kind? a ≠ none :=
  (h a).present ha

/-- A file that is not written keeps its contents. -/
theorem find?_eq_file (h : Becomes P root root') {a : List Name} (hnot : ¬ P a)
    {contents : List UInt8} (ha : root.find? a = some (file contents)) :
    root'.find? a = some (file contents) := by
  rw [← kind?_eq_file_iff] at ha ⊢
  obtain heq | ⟨hnone, -⟩ := (h a).of_not_allowed hnot
  · exact heq.trans ha
  · rw [hnone] at ha
    cases ha

end Becomes

/-! ## Following paths -/

theorem lookup_eq_find? {root : Node} {here : List Name} {entries : List (Name × Node)}
    (h : root.find? here = some (directory entries)) (s : Name) :
    entries.lookup s = root.find? (here ++ [s]) := by
  rw [find?_append, h, Option.bind_some, find?_singleton, Node.entries]

/-- Following a path looks at nothing but what is at the addresses on the way. -/
theorem follow_cons (root : Node) (here : List Name) (s : Name) (rest : List Name) :
    root.follow here (s :: rest) =
      match root.kind? here with
      | none => .error .notFound
      | some (.file _) => .error .notADirectory
      | some .directory =>
        if s = "" ∨ s = "." then root.follow here rest
        else if s = ".." then root.follow here.dropLast rest
        else
          match root.kind? (here ++ [s]) with
          | some _ => root.follow (here ++ [s]) rest
          | none => .error (absence s) := by
  rw [follow, kind?]
  rcases hhere : root.find? here with _ | (_ | entries)
  · rfl
  · rfl
  · simp only [Option.map_some, kind, lookup_eq_find? hhere s, kind?]
    rcases root.find? (here ++ [s]) with _ | child <;> rfl

theorem follow_append (root : Node) (here s t : List Name) :
    root.follow here (s ++ t) = root.follow here s >>= fun a => root.follow a t := by
  induction s generalizing here with
  | nil =>
    rw [List.nil_append, follow.eq_1 root here]
    rfl
  | cons first rest ih =>
    rw [List.cons_append, follow_cons, follow_cons]
    rcases root.kind? here with _ | (_ | _)
    · rfl
    · dsimp only
      split_ifs
      · exact ih here
      · exact ih here.dropLast
      · rcases root.kind? (here ++ [first]) with _ | k
        · rfl
        · exact ih (here ++ [first])
    · rfl

/-- A name leads from a directory to the entry of this name. -/
theorem follow_name {root : Node} {here : List Name} {name : Name} (hname : IsName name)
    (hhere : root.kind? here = some .directory) (hentry : root.kind? (here ++ [name]) ≠ none) :
    root.follow here [name] = .ok (here ++ [name]) := by
  obtain ⟨k, hk⟩ := Option.ne_none_iff_exists'.1 hentry
  obtain ⟨hempty, hdot, hdots⟩ := hname
  rw [follow_cons, hhere, hk]
  simp only [hempty, hdot, hdots, or_self, if_false]
  rw [follow]

/-- An empty segment leads nowhere else. -/
theorem follow_idle {root : Node} {here a : List Name} (h : root.follow here [""] = .ok a) :
    a = here := by
  rw [follow_cons] at h
  split at h
  · cases h
  · cases h
  · rw [if_pos (.inl rfl), follow] at h
    exact (Except.ok.inj h).symm

theorem origin_eq_ok {here start : List Name} {p : Path} (h : origin here p = .ok start) :
    p.isEmpty = false ∧ start = if p.isAbsolute then [] else here := by
  unfold origin at h
  split_ifs at h with hempty
  · exact ⟨by simpa using hempty, by simp_all⟩
  · exact ⟨by simpa using hempty, by simp_all⟩

theorem Becomes.follow {P : List Name → Prop} {root root' : Node} (h : Becomes P root root')
    {here s a : List Name} (hs : root.follow here s = .ok a) : root'.follow here s = .ok a := by
  induction s generalizing here with
  | nil => rw [← hs, Node.follow, Node.follow]
  | cons first rest ih =>
    rw [follow_cons] at hs ⊢
    cases hhere : root.kind? here with
    | none =>
      rw [hhere] at hs
      cases hs
    | some k =>
      cases k with
      | file contents =>
        rw [hhere] at hs
        cases hs
      | directory =>
        rw [hhere] at hs
        rw [h.kind?_eq_directory hhere]
        dsimp only at hs ⊢
        split_ifs at hs ⊢
        · exact ih hs
        · exact ih hs
        · cases hentry : root.kind? (here ++ [first]) with
          | none =>
            rw [hentry] at hs
            cases hs
          | some k =>
            rw [hentry] at hs
            obtain ⟨k', hk'⟩ := Option.ne_none_iff_exists'.1
              (h.kind?_ne_none (hentry ▸ Option.some_ne_none k))
            rw [hk']
            exact ih hs

/-- Names lead from a directory to what is below it. -/
theorem follow_names {root : Node} {here names : List Name} (hnames : ∀ name ∈ names, IsName name)
    (hentry : root.kind? (here ++ names) ≠ none) : root.follow here names = .ok (here ++ names) := by
  induction names generalizing here with
  | nil => rw [follow, List.append_nil]
  | cons name rest ih =>
    have hhere := kind?_eq_directory_of_append (List.cons_ne_nil name rest) hentry
    rw [← List.singleton_append, ← List.append_assoc] at hentry ⊢
    rw [follow_append, follow_name (hnames name List.mem_cons_self) hhere
      (kind?_ne_none_of_append hentry)]
    exact ih (fun other hother => hnames other (List.mem_cons_of_mem _ hother)) hentry

/-- Names lead nowhere but to what is below. -/
theorem eq_of_follow_names {root : Node} {here names b : List Name}
    (hnames : ∀ name ∈ names, IsName name) (h : root.follow here names = .ok b) :
    b = here ++ names := by
  induction names generalizing here with
  | nil =>
    rw [follow] at h
    rw [List.append_nil, Except.ok.inj h]
  | cons name rest ih =>
    obtain ⟨hempty, hdot, hdots⟩ := hnames name List.mem_cons_self
    rw [follow_cons] at h
    simp only [hempty, hdot, hdots, or_self, if_false] at h
    split at h
    · cases h
    · cases h
    · split at h
      · rw [ih (fun other hother => hnames other (List.mem_cons_of_mem _ hother)) h,
          List.append_assoc, List.singleton_append]
      · cases h

/-- Paths that lead on from one path through different names lead to different places. -/
theorem eq_of_locate_join {root : Node} {here b names names' : List Name} {p : Path}
    (hnil : names ≠ []) (hnames : ∀ name ∈ names, IsName name) (hnil' : names' ≠ [])
    (hnames' : ∀ name ∈ names', IsName name) (h : root.locate here (p.join names) = .ok b)
    (h' : root.locate here (p.join names') = .ok b) : names = names' := by
  obtain ⟨front, hjoin⟩ := p.exists_join
  rw [hjoin] at h h'
  obtain ⟨start, hstart, h⟩ := bind_eq_ok h
  obtain ⟨start', hstart', h'⟩ := bind_eq_ok h'
  have hsame : start' = start := by
    rw [(origin_eq_ok hstart).2, (origin_eq_ok hstart').2, Path.isAbsolute_append front hnil hnames,
      Path.isAbsolute_append front hnil' hnames']
  rw [hsame] at h'
  rw [follow_append] at h h'
  obtain ⟨a, ha, h⟩ := bind_eq_ok h
  obtain ⟨a', ha', h'⟩ := bind_eq_ok h'
  obtain rfl := Except.ok.inj (ha.symm.trans ha')
  exact List.append_cancel_left
    ((eq_of_follow_names hnames h).symm.trans (eq_of_follow_names hnames' h'))

/-- If a path leads to a directory and a longer one can be followed at all, this leads on through the
directory. -/
theorem locate_join {root : Node} {here a names start : List Name} {p : Path}
    (hp : root.locate here p = .ok a) (hnil : names ≠ []) (hnames : ∀ name ∈ names, IsName name)
    (hentry : root.kind? (a ++ names) ≠ none) (hstart : origin here (p.join names) = .ok start) :
    root.locate here (p.join names) = .ok (a ++ names) := by
  obtain ⟨start', hstart', hp⟩ := bind_eq_ok hp
  obtain ⟨hempty, habsolute⟩ := origin_eq_ok hstart'
  obtain ⟨-, hjoined⟩ := origin_eq_ok hstart
  rw [Path.isAbsolute_join hempty hnil hnames, ← habsolute] at hjoined
  unfold locate
  rw [hstart, hjoined]
  change root.follow start' (p.join names).segments = _
  by_cases hlast : p.segments.getLast? = some (Name.ofText "")
  · obtain ⟨front, hfront⟩ := List.getLast?_eq_some_iff.1 hlast
    have hsegments : (p.join names).segments = front ++ names := by
      rw [Path.join, if_pos hlast, hfront, List.dropLast_concat]
    rw [hfront, follow_append] at hp
    obtain ⟨a', ha', hp⟩ := bind_eq_ok hp
    obtain rfl := follow_idle hp
    rw [hsegments, follow_append, ha']
    exact follow_names hnames hentry
  · have hsegments : (p.join names).segments = p.segments ++ names := by
      rw [Path.join, if_neg hlast]
    rw [hsegments, follow_append, hp]
    exact follow_names hnames hentry

/-- A path leads where it led. -/
theorem Becomes.locate {P : List Name → Prop} {root root' : Node} (h : Becomes P root root')
    {here : List Name} {p : Path} {a : List Name} (hp : root.locate here p = .ok a) :
    root'.locate here p = .ok a := by
  obtain ⟨start, hstart, hp⟩ := bind_eq_ok hp
  unfold Node.locate
  rw [hstart]
  exact h.follow hp

theorem node?_eq_some_iff {root : Node} {here : List Name} {p : Path} {node : Node} :
    root.node? here p = some node ↔
      ∃ a, root.locate here p = .ok a ∧ root.find? a = some node := by
  unfold Node.node?
  cases root.locate here p with
  | error fault => simp
  | ok a => simp

theorem read_eq_ok_iff {root : Node} {here : List Name} {p : Path} {contents : List UInt8} :
    root.read here p = .ok contents ↔
      ∃ a, root.locate here p = .ok a ∧ root.find? a = some (file contents) := by
  unfold read
  cases root.locate here p with
  | error fault => simp
  | ok a => rcases hfind : root.find? a with _ | (_ | _) <;> simp [hfind]

/-! ## Placing new entries -/

/-- A new entry goes into a directory. -/
theorem place_eq_ok {root : Node} {here address : List Name} {p : Path} {name : Name}
    (h : root.place here p = .ok (address, name)) (hname : name ≠ ".") :
    name ≠ "" ∧ root.kind? address = some .directory := by
  unfold place at h
  obtain ⟨start, -, h⟩ := bind_eq_ok h
  split at h
  · obtain ⟨-, rfl⟩ := Prod.mk.inj (Except.ok.inj h)
    exact absurd rfl hname
  · rename_i first above hsegments
    have hfirst : first ≠ "" := by
      have hhead := List.head?_dropWhile_not (fun s => decide (s = Name.ofText "")) p.segments.reverse
      rw [hsegments] at hhead
      simpa using hhead
    obtain ⟨a, -, h⟩ := bind_eq_ok h
    split at h
    · rename_i entries hentries
      split_ifs at h
      obtain ⟨rfl, rfl⟩ := Prod.mk.inj (Except.ok.inj h)
      exact ⟨hfirst, kind?_eq_directory_iff.2 ⟨entries, hentries⟩⟩
    · cases h
    · cases h

/-- A path that ends in a name leads to its new entry once this is there. -/
theorem locate_of_place {P : List Name → Prop} {root root' : Node} {here address : List Name}
    {p : Path} {name : Name} (hp : p.IsNamed) (h : root.place here p = .ok (address, name))
    (hroot : Becomes P root root') (hentry : root'.kind? (address ++ [name]) ≠ none) :
    root'.locate here p = .ok (address ++ [name]) := by
  obtain ⟨above, last, hsegments, hlast⟩ := hp
  unfold place at h
  obtain ⟨start, hstart, h⟩ := bind_eq_ok h
  have hreverse :
      p.segments.reverse.dropWhile (fun s => decide (s = Name.ofText "")) = last :: above.reverse := by
    simp [hsegments, hlast.1]
  rw [hreverse] at h
  dsimp only at h
  rw [List.reverse_reverse] at h
  obtain ⟨a, ha, h⟩ := bind_eq_ok h
  split at h
  · rename_i entries hentries
    split_ifs at h
    obtain ⟨rfl, rfl⟩ := Prod.mk.inj (Except.ok.inj h)
    have hdirectory := hroot.kind?_eq_directory (kind?_eq_directory_iff.2 ⟨entries, hentries⟩)
    unfold locate
    rw [hstart, hsegments]
    change root'.follow start (above ++ [last]) = _
    rw [follow_append, hroot.follow ha]
    exact follow_name hlast hdirectory hentry
  · cases h
  · cases h

/-- A new entry goes where it went. -/
theorem Becomes.place {P : List Name → Prop} {root root' : Node} (h : Becomes P root root')
    {here address : List Name} {p : Path} {name : Name}
    (hp : root.place here p = .ok (address, name)) : root'.place here p = .ok (address, name) := by
  unfold Node.place at hp ⊢
  obtain ⟨start, hstart, hp⟩ := bind_eq_ok hp
  rw [hstart]
  cases hsegments : p.segments.reverse.dropWhile (fun s => decide (s = Name.ofText "")) with
  | nil =>
    rw [hsegments] at hp
    exact hp
  | cons last above =>
    rw [hsegments] at hp
    obtain ⟨a, ha, hp⟩ := bind_eq_ok hp
    change (root'.follow start above.reverse >>= _) = _
    rw [h.follow ha]
    split at hp
    · rename_i entries hentries
      obtain ⟨entries', hentries'⟩ := kind?_eq_directory_iff.1
        (h.kind?_eq_directory (kind?_eq_directory_iff.2 ⟨entries, hentries⟩))
      simp only [bind, Except.bind, hentries']
      exact hp
    · cases hp
    · cases hp

/-- Making a directory writes no file. -/
theorem makeDirectory_becomes {root root' : Node} {here : List Name} {p : Path}
    (h : root.makeDirectory here p = .ok root') :
    Becomes (fun _ => False) root root' ∧ (root.WellFormed → root'.WellFormed) := by
  unfold makeDirectory at h
  split at h
  · cases h
  · rename_i address name hplace
    split_ifs at h with hdots
    rw [not_or] at hdots
    obtain ⟨hempty, habove⟩ := place_eq_ok hplace hdots.1
    split at h
    · cases h
    · rename_i hnone
      obtain rfl := Except.ok.inj h
      have hkind : root.kind? (address ++ [name]) = none := kind?_eq_none_iff.2 hnone
      refine ⟨fun a => ?_, fun hroot => hroot.put rfl ⟨hempty, hdots⟩ habove⟩
      rw [kind?_put rfl habove (by simp [hkind])]
      by_cases ha : a = address ++ [name]
      · rw [if_pos ha, ha, hkind]
        exact .made
      · rw [if_neg ha]
        exact .same _

/-- A file is written into a directory, where no directory is. -/
theorem write_eq_ok {root root' : Node} {here : List Name} {p : Path} {contents : List UInt8}
    (h : root.write here p contents = .ok root') :
    ∃ above name, root.place here p = .ok (above, name) ∧ IsName name ∧
      root.kind? above = some .directory ∧ root.kind? (above ++ [name]) ≠ some .directory ∧
      root.put (file contents) (above ++ [name]) = root' := by
  unfold write at h
  split at h
  · cases h
  · rename_i above name hplace
    split_ifs at h with hdots
    rw [not_or] at hdots
    obtain ⟨hempty, habove⟩ := place_eq_ok hplace hdots.1
    have hfree : root.kind? (above ++ [name]) ≠ some .directory := by
      intro hdirectory
      obtain ⟨entries, hentries⟩ := kind?_eq_directory_iff.1 hdirectory
      rw [hentries] at h
      cases h
    refine ⟨above, name, hplace, ⟨hempty, hdots⟩, habove, hfree, ?_⟩
    split at h
    · cases h
    · exact Except.ok.inj h

/-- Writing a file changes what is at the address that its path leads to afterwards, and nothing else.
If something was there the path led there before. -/
theorem write_becomes {root root' : Node} {here : List Name} {p : Path} {contents : List UInt8}
    (hp : p.IsNamed) (h : root.write here p contents = .ok root') :
    ∃ address, root'.locate here p = .ok address ∧
      root'.find? address = some (file contents) ∧
      (root.kind? address ≠ none → root.locate here p = .ok address) ∧
      Becomes (· = address) root root' ∧ (root.WellFormed → root'.WellFormed) := by
  obtain ⟨above, name, hplace, hname, habove, hfree, rfl⟩ := write_eq_ok h
  have hentries : (file contents).entries = [] := rfl
  have hkind := kind?_put hentries habove hfree
  have hbecomes : Becomes (· = above ++ [name]) root
      (root.put (file contents) (above ++ [name])) := by
    intro a
    rw [hkind]
    by_cases ha : a = above ++ [name]
    · rw [if_pos ha]
      exact .written contents ha (ha ▸ hfree)
    · rw [if_neg ha]
      exact .same _
  have hwritten := (hkind (above ++ [name])).trans (if_pos rfl)
  refine ⟨above ++ [name], ?_, kind?_eq_file_iff.1 hwritten, ?_, hbecomes,
    fun hroot => hroot.put rfl hname habove⟩
  · exact locate_of_place hp hplace hbecomes (by simp [hwritten])
  · exact locate_of_place hp hplace (Becomes.refl (fun _ => False) root)

/-- Where a file was written, it can be written again. -/
theorem write_again {root root' : Node} {here : List Name} {p : Path} {contents : List UInt8}
    (hp : p.IsNamed) (h : root.write here p contents = .ok root') (contents' : List UInt8) :
    ∃ root'', root'.write here p contents' = .ok root'' := by
  obtain ⟨_, -, -, -, hbecomes, -⟩ := write_becomes hp h
  obtain ⟨above, name, hplace, hname, habove, hfree, rfl⟩ := write_eq_ok h
  have hentries : (file contents).entries = [] := rfl
  have hwritten := (kind?_put hentries habove hfree (above ++ [name])).trans (if_pos rfl)
  have hdots : ¬ (name = "." ∨ name = "..") := by
    rw [not_or]
    exact hname.2
  unfold write
  rw [hbecomes.place hplace]
  simp only [if_neg hdots, kind?_eq_file_iff.1 hwritten]
  exact ⟨_, rfl⟩

end Node

end Renumber
