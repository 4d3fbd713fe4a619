import KubeletCollector.Proofs.Place

/-! Two endpoints never share a URL, and two artifacts never share a name. The route
at the end of a URL gives the kind away; what stands before it can be cut where the
port or the name begins. -/

namespace KubeletCollector

theorem eq_of_cut {sep : Char} {a b p q : List Char} (hp : sep ∉ p) (hq : sep ∉ q)
    (h : a ++ sep :: p = b ++ sep :: q) : a = b ∧ p = q := by
  rcases List.append_eq_append_iff.1 h with ⟨c, rfl, hc⟩ | ⟨c, rfl, hc⟩
  · cases c with
    | nil => simp_all
    | cons x c =>
      obtain ⟨-, rfl⟩ := List.cons.inj hc
      simp at hp
  · cases c with
    | nil => simp_all
    | cons x c =>
      obtain ⟨-, rfl⟩ := List.cons.inj hc
      simp at hq

namespace EndpointKind

def lastOfRoute : EndpointKind → Char
  | .summary => 'y'
  | .cadvisor => 'r'
  | .container => '/'

theorem getLast?_route (kind : EndpointKind) :
    kind.route.toList.getLast? = some kind.lastOfRoute := by
  cases kind <;> decide

theorem route_inj {a b : List Char} {kind other : EndpointKind}
    (h : a ++ kind.route.toList = b ++ other.route.toList) : a = b ∧ kind = other := by
  have hlast : kind.lastOfRoute = other.lastOfRoute := by
    have := congrArg List.getLast? h
    simpa [List.getLast?_append, getLast?_route] using this
  obtain rfl : kind = other := by
    cases kind <;> cases other <;> first | rfl | exact absurd hlast (by decide)
  exact ⟨List.append_cancel_right h, rfl⟩

def firstOfLabel : EndpointKind → List Char
  | .summary => ['s', 'u']
  | .cadvisor => ['c', 'a']
  | .container => ['c', 'o']

theorem take_artifactLabel (kind : EndpointKind) (rest : List Char) :
    (kind.artifactLabel.toList ++ rest).take 2 = kind.firstOfLabel := by
  cases kind <;> rfl

end EndpointKind

section Ports

theorem notMem_digits {c : Char} (hc : c.isDigit = false) (n : Nat) : c ∉ Nat.toDigits 10 n := by
  intro h
  have hdigit := Nat.isDigit_of_mem_toDigits (by decide) (by decide) h
  rw [hc] at hdigit
  cases hdigit

theorem toDigits_inj {m n : Nat} (h : Nat.toDigits 10 m = Nat.toDigits 10 n) : m = n := by
  rw [← Nat.ofDigitChars_ten_toDigits (n := m), h, Nat.ofDigitChars_ten_toDigits]

theorem toList_toString (port : Int) :
    (toString port).toList =
      if 0 ≤ port then Nat.toDigits 10 port.toNat else '-' :: Nat.toDigits 10 (-port).toNat := by
  rw [Int.toString_eq_repr, Int.repr_eq_if]
  split
  · exact Nat.toList_repr
  · rw [String.toList_append, Nat.toList_repr]
    rfl

theorem notMem_port {c : Char} (hc : c.isDigit = false) (hm : c ≠ '-') (port : Int) :
    c ∉ (toString port).toList := by
  rw [toList_toString]
  split
  · exact notMem_digits hc _
  · rw [List.mem_cons, not_or]
    exact ⟨hm, notMem_digits hc _⟩

theorem toString_inj {port other : Int} (h : (toString port).toList = (toString other).toList) :
    port = other := by
  have key (n m : Nat) : '-' :: Nat.toDigits 10 n ≠ Nat.toDigits 10 m := by
    intro he
    exact notMem_digits (by decide) m (he ▸ List.mem_cons_self)
  rw [toList_toString, toList_toString] at h
  split at h <;> split at h
  · have := toDigits_inj h
    omega
  · exact absurd h.symm (key _ _)
  · exact absurd h (key _ _)
  · have := toDigits_inj (List.cons.inj h).2
    omega

end Ports

/-- A host as it stands in a URL. -/
theorem host_inj {ip other : List Char}
    (h : (if ip.contains ':' then '[' :: ip ++ [']'] else ip) =
      if other.contains ':' then '[' :: other ++ [']'] else other) : ip = other := by
  have bare {a b : List Char} (hb : b.contains ':' = true) (ha : ¬ a.contains ':' = true)
      (he : '[' :: b ++ [']'] = a) : False := by
    subst he
    exact ha (by simpa using hb)
  split at h <;> split at h
  · exact List.append_cancel_right (List.cons.inj h).2
  · exact (bare ‹_› ‹_› h).elim
  · exact (bare ‹_› ‹_› h.symm).elim
  · exact h

theorem toList_directUrl (ip : String) (port : Int) (kind : EndpointKind) :
    (directUrl ip port kind).toList =
      "https://".toList ++
        ((if ip.toList.contains ':' then '[' :: ip.toList ++ [']'] else ip.toList)
          ++ ':' :: (toString port).toList) ++ kind.route.toList := by
  unfold directUrl
  split <;> simp [String.toList_append]

theorem directUrl_inj {ip ip' : String} {port port' : Int} {kind kind' : EndpointKind}
    (h : directUrl ip port kind = directUrl ip' port' kind') :
    ip = ip' ∧ port = port' ∧ kind = kind' := by
  have hl := congrArg String.toList h
  rw [toList_directUrl, toList_directUrl] at hl
  obtain ⟨hhead, rfl⟩ := EndpointKind.route_inj hl
  have hcolon (port : Int) : ':' ∉ (toString port).toList :=
    notMem_port (by decide) (by decide) port
  obtain ⟨hhost, hport⟩ :=
    eq_of_cut (hcolon port) (hcolon port') (List.append_cancel_left hhead)
  exact ⟨String.toList_inj.1 (host_inj hhost), toString_inj hport, rfl⟩

theorem toList_proxyUrl (host name : String) (kind : EndpointKind) :
    (proxyUrl host name kind).toList =
      Url.dropEndSlashes host.toList ++ "/api/v1/nodes/".toList ++ (name.toList ++ "/proxy".toList)
        ++ kind.route.toList := by
  simp [proxyUrl, String.toList_append]

theorem proxyUrl_inj {host name name' : String} {kind kind' : EndpointKind}
    (h : proxyUrl host name kind = proxyUrl host name' kind') : name = name' ∧ kind = kind' := by
  have hl := congrArg String.toList h
  rw [toList_proxyUrl, toList_proxyUrl] at hl
  obtain ⟨hhead, rfl⟩ := EndpointKind.route_inj hl
  exact ⟨String.toList_inj.1 (List.append_cancel_right (List.append_cancel_left hhead)), rfl⟩

theorem toList_artifactName (start node : String) (kind : EndpointKind) :
    (artifactName start node kind).toList =
      start.toList ++ ['-'] ++ (kind.artifactLabel.toList ++ ('-' :: node.toList)) := by
  simp [artifactName, String.toList_append]

theorem artifactName_inj {start node node' : String} {kind kind' : EndpointKind}
    (h : artifactName start node kind = artifactName start node' kind') :
    node = node' ∧ kind = kind' := by
  have hl := congrArg String.toList h
  rw [toList_artifactName, toList_artifactName] at hl
  have hl := List.append_cancel_left hl
  obtain rfl : kind = kind' := by
    have := congrArg (List.take 2) hl
    rw [EndpointKind.take_artifactLabel, EndpointKind.take_artifactLabel] at this
    cases kind <;> cases kind' <;> first | rfl | exact absurd this (by decide)
  exact ⟨String.toList_inj.1 (List.cons.inj (List.append_cancel_left hl)).2, rfl⟩

theorem mem_artifactName {start node : String} {kind : EndpointKind} {c : Char}
    (h : c ∈ (artifactName start node kind).toList) :
    c ∈ start.toList ∨ c ∈ node.toList ∨ c = '-' ∨ c ∈ kind.artifactLabel.toList := by
  rw [toList_artifactName] at h
  simp only [List.mem_append, List.mem_cons, List.not_mem_nil, or_false] at h
  rcases h with (h | h) | h | h | h
  · exact Or.inl h
  · exact Or.inr (Or.inr (Or.inl h))
  · exact Or.inr (Or.inr (Or.inr h))
  · exact Or.inr (Or.inr (Or.inl h))
  · exact Or.inr (Or.inl h)

theorem plain_artifactName {start node : String} (kind : EndpointKind) (hs : '/' ∉ start.toList)
    (hn : '/' ∉ node.toList) : PlainName (artifactName start node kind) where
  hyphen := by simp [toList_artifactName]
  whole := by
    intro h
    rcases mem_artifactName h with h | h | h | h
    · exact hs h
    · exact hn h
    · exact absurd h (by decide)
    · cases kind <;> exact absurd h (by decide)

theorem null_notMem_artifactName {start node : String} (kind : EndpointKind)
    (hs : Char.ofNat 0 ∉ start.toList) (hn : Char.ofNat 0 ∉ node.toList) :
    Char.ofNat 0 ∉ (artifactName start node kind).toList := by
  intro h
  rcases mem_artifactName h with h | h | h | h
  · exact hs h
  · exact hn h
  · exact absurd h (by decide)
  · cases kind <;> exact absurd h (by decide)

/-- In front of the route stands a digit of the port here, and a letter there. -/
theorem directUrl_ne_proxyUrl (ip host name : String) (port : Int) (kind kind' : EndpointKind) :
    directUrl ip port kind ≠ proxyUrl host name kind' := by
  intro h
  have hl := congrArg String.toList h
  rw [toList_directUrl, toList_proxyUrl] at hl
  have hhead := congrArg List.getLast? (EndpointKind.route_inj hl).1
  have hletter : "/proxy".toList.getLast? = some 'y' := by decide +kernel
  have hlast : (':' :: (toString port).toList).getLast? = some 'y' := by
    rw [List.getLast?_append, List.getLast?_append, List.getLast?_append, List.getLast?_append,
      hletter, List.getLast?_cons] at hhead
    simpa only [Option.some_or, List.getLast?_cons] using hhead
  rcases List.mem_cons.1 (List.mem_of_mem_getLast? hlast) with hcolon | hport
  · exact absurd hcolon (by decide)
  · exact notMem_port (by decide) (by decide) port hport

/-- A line of an endpoint tells its URL. -/
theorem url_of_line {kind kind' : EndpointKind} {url url' : String}
    (h : kind.method ++ " " ++ url = kind'.method ++ " " ++ url') : url = url' := by
  have hl := congrArg String.toList h
  simp only [String.toList_append] at hl
  have hm : kind.method = kind'.method := by
    cases kind <;> cases kind' <;> first | rfl | exact absurd (List.cons.inj hl).1 (by decide)
  rw [hm] at hl
  exact String.toList_inj.1 (List.append_cancel_left hl)

/-- Where neither the start nor a node's name holds a slash, an artifact stands right below its
directory, under the name it is called by. -/
theorem child_artifactName (dir : Path) {start node : String} (kind : EndpointKind)
    (hs : '/' ∉ start.toList) (hn : '/' ∉ node.toList) :
    dir.child (artifactName start node kind) =
      ⟨dir.start, dir.names ++ [artifactName start node kind]⟩ :=
  dir.child_plain (plain_artifactName kind hs hn)

/-- Endpoints of kubelets that are reached straight have different URLs, and so have those that are
reached through one server, and no URL is of both sorts. Artifacts that are called by one start have
different names, and their paths in one directory lie right below it and are different too. -/
theorem addresses_distinct :
    (∀ ip ip' port port' kind kind', directUrl ip port kind = directUrl ip' port' kind' →
      ip = ip' ∧ port = port' ∧ kind = kind') ∧
    (∀ host name name' kind kind', proxyUrl host name kind = proxyUrl host name' kind' →
      name = name' ∧ kind = kind') ∧
    (∀ ip port kind host name kind', directUrl ip port kind ≠ proxyUrl host name kind') ∧
    (∀ start node node' kind kind', artifactName start node kind = artifactName start node' kind' →
      node = node' ∧ kind = kind') ∧
    ∀ (dir : Path) (start node : String) (kind : EndpointKind),
      '/' ∉ start.toList → '/' ∉ node.toList →
      dir.child (artifactName start node kind) =
          ⟨dir.start, dir.names ++ [artifactName start node kind]⟩ ∧
        (dir.child (artifactName start node kind)).parent = dir ∧
        ∀ node' kind', '/' ∉ node'.toList →
          (dir.child (artifactName start node kind) = dir.child (artifactName start node' kind') ↔
            node = node' ∧ kind = kind') := by
  refine ⟨fun _ _ _ _ _ _ => directUrl_inj, fun _ _ _ _ _ => proxyUrl_inj,
    fun ip port kind host name => directUrl_ne_proxyUrl ip host name port kind,
    fun _ _ _ _ _ => artifactName_inj, fun dir start node kind hs hn => ?_⟩
  have hchild := child_artifactName dir kind hs hn
  refine ⟨hchild, ?_, fun node' kind' hn' => ⟨fun h => ?_, ?_⟩⟩
  · rw [hchild, Path.parent, List.dropLast_concat]
  · rw [hchild, child_artifactName dir kind' hs hn', Path.mk.injEq] at h
    exact artifactName_inj (List.cons.inj (List.append_cancel_left h.2)).1
  · rintro ⟨rfl, rfl⟩
    rfl

namespace Sample

/-- A node that is called like the artifacts of another one. -/
theorem addresses_distinct_hyphens :
    ('/' ∉ "stats".toList ∧ '/' ∉ "a".toList ∧ '/' ∉ "container-a".toList) ∧
      (Path.ofText "/tmp/s").child (artifactName "stats" "container-a" .summary) ≠
        (Path.ofText "/tmp/s").child (artifactName "stats" "a" .container) ∧
      ((Path.ofText "/tmp/s").child (artifactName "stats" "a" .container)).parent =
        Path.ofText "/tmp/s" := by
  have hstart : '/' ∉ "stats".toList := by decide +kernel
  have hnode : '/' ∉ "a".toList := by decide +kernel
  have hother : '/' ∉ "container-a".toList := by decide +kernel
  have hpaths := addresses_distinct.2.2.2.2 (Path.ofText "/tmp/s") "stats"
  refine ⟨⟨hstart, hnode, hother⟩, fun h => ?_, (hpaths "a" .container hstart hnode).2.1⟩
  have hkind := (((hpaths "container-a" .summary hstart hother).2.2 "a" .container hnode).1 h).2
  cases hkind

end Sample

end KubeletCollector
