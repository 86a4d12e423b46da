import ColumnWire.Proofs.Client.Sound

/-!
# Open streams on a sound pool

While a stream is open, the number of its connection is held beside the pool of its client.
Pulling says nothing, closing says a cancellation at most; when the stream is closed its
connection is back in the pool, or it has departed.
-/
namespace ColumnWire

open Event Connection Phase

variable {σ : Type} [Source σ] {home c c' : Client σ} {ledger : Ledger} {held : List Nat}
  {conn conn' : Connection σ}

omit [Source σ] in
/-- A failure that spoils the connection closes it, any other is as good as none. -/
theorem Client.release_some (e : Error) (conn : Connection σ) (c : Client σ) :
    c.release (some e) conn =
      if e.spoilsConnection then c.remove conn else c.release none conn := by
  by_cases hspoils : e.spoilsConnection = true
  · simp [Client.release, Client.remove, Pool.release, hspoils]
  · simp [Client.release, Pool.release, hspoils]

namespace RowStream

variable {rows : RowStream σ} {s s' : RowStream σ × Client σ}

/-- Whatever the outcome of a pull, it is a pull into an empty block. -/
theorem snd_next (s : RowStream σ × Client σ) : (next s).2 = (nextInto .empty s).2 := by
  unfold next
  rcases nextInto .empty s with ⟨⟨_ | _, block⟩, s'⟩ <;> rfl

/-- The number of the connection that the stream holds. -/
def ids (rows : RowStream σ) : List Nat := rows.connection.toList.map (·.id)

variable (home ledger held) in
/-- The pool of the client is sound, and if the stream is open then so is its connection, and the answer
has not come to its end. -/
structure Sound (s : RowStream σ × Client σ) : Prop where
  client : home.Sound ledger (s.1.ids ++ held) s.2
  opened : ∀ conn, s.1.connection = some conn →
    Open home.config home.network .waiting (ledger conn.id) conn

namespace Sound

/-- A stream that is closed holds nothing. -/
theorem ofClosed (hrows : rows.connection = none) (h : home.Sound ledger held c) :
    Sound home ledger held (rows, c) where
  client := by
    rw [ids, hrows]
    exact h
  opened conn hconn := by
    rw [hrows] at hconn
    cases hconn

theorem closed (h : Sound home ledger held (rows, c)) (hrows : rows.connection = none) :
    home.Sound ledger held c := by
  have hclient := h.client
  rw [ids, hrows] at hclient
  exact hclient

/-- Something has happened on the connection of a stream that stays open. -/
theorem ofOpen {failure : Option Error} {new : List Event}
    (h : home.Sound ledger (conn.id :: held) c) (hid : conn'.id = conn.id)
    (hopen : Open home.config home.network .waiting (ledger conn.id ++ new) conn') :
    Sound home (ledger.add conn.id new) held (⟨some conn', failure⟩, c) where
  client := by
    show home.Sound _ (conn'.id :: held) c
    rw [hid]
    exact h.withPool (h.pool.add new)
  opened conn'' hconn := by
    cases hconn
    rw [hid, Ledger.add_self]
    exact hopen

/-! ## Pulling -/

/-- **A pull leaves the stream open, or its connection settled or departed.** -/
theorem nextInto (h : Sound home ledger held s) (block : Block) :
    ∃ ledger', Sound home ledger' held (RowStream.nextInto block s).2 ∧
      Ledger.Extends [] held ledger ledger' := by
  obtain ⟨⟨_ | conn, failure⟩, c⟩ := s
  · exact ⟨ledger, h, .refl _ _ _⟩
  · have hopen := h.opened conn rfl
    have hclient : home.Sound ledger (conn.id :: held) c := h.client
    have hlimit : c.exceptionLimit = home.config.exceptionDepth.toNat := by
      rw [Client.exceptionLimit, hclient.config_eq]
    simp only [RowStream.nextInto, hlimit]
    rcases hreply : conn.reply Policy.nextBlock home.config.exceptionDepth.toNat { block } with
      ⟨e | _ | _, tray, conn'⟩
    · obtain ⟨new, hasked, hpast, hid, hend⟩ := hopen.life.reply_error Policy.follows_nextBlock hreply
      have hclient' := hclient.release_error hopen hid hpast hend
      exact ⟨_, ofClosed rfl hclient', .add (hasked ▸ .refl _) hclient.not_mem_held⟩
    · obtain ⟨new, hasked, hlife, hmoves, hid, hserver⟩ :=
        hopen.life.reply_ok Policy.follows_nextBlock hreply
      have hclient' := hclient.release_rested hopen hlife hid hserver hmoves
      exact ⟨_, ofClosed rfl hclient', .add (hasked ▸ .refl _) hclient.not_mem_held⟩
    · obtain ⟨new, hasked, hlife, hmoves, hid, hserver⟩ :=
        hopen.life.reply_ok Policy.follows_nextBlock hreply
      have hopen' : Open home.config home.network .waiting _ conn' := hopen.go hlife hid hserver hmoves
      exact ⟨_, ofOpen hclient hid hopen', .add (hasked ▸ .refl _) hclient.not_mem_held⟩

theorem next (h : Sound home ledger held s) :
    ∃ ledger', Sound home ledger' held (RowStream.next s).2 ∧
      Ledger.Extends [] held ledger ledger' := by
  rw [snd_next]
  exact h.nextInto .empty

theorem pullAll (h : Sound home ledger held s) (pulled : List Block) :
    ∃ ledger', Sound home ledger' held (RowStream.pullAll pulled s).2 ∧
      Ledger.Extends [] held ledger ledger' := by
  fun_induction RowStream.pullAll pulled s generalizing ledger with
  | case1 pulled s s' hnext =>
    have hsound := h.next
    rw [hnext] at hsound
    exact hsound
  | case2 pulled s block s' hnext ih =>
    obtain ⟨ledger₁, hsound, hext⟩ := h.next
    rw [hnext] at hsound
    obtain ⟨ledger₂, hsound₂, hext₂⟩ := ih hsound
    exact ⟨ledger₂, hsound₂, hext.trans hext₂⟩

/-! ## Stopping -/

/-- **A stream that is closed asks for nothing but to stop**, and reads to the end of the answer. -/
theorem close (h : Sound home ledger held s) :
    ∃ ledger', Sound home ledger' held (RowStream.close s).2 ∧
      Ledger.Extends [Request.cancel] held ledger ledger' := by
  obtain ⟨⟨_ | conn, failure⟩, c⟩ := s
  · exact ⟨ledger, h, .refl _ _ _⟩
  · have hopen := h.opened conn rfl
    have hclient : home.Sound ledger (conn.id :: held) c := h.client
    have htalk := Client.talk_cancel home.network c
    rw [hclient.config_eq] at htalk
    unfold RowStream.close
    cases hd : cancel c.exceptionLimit conn with
    | ok u conn' =>
      simp only [hd]
      obtain ⟨new, hasked, hlife, hmoves, hid, hserver⟩ := htalk.of_ok hopen.life hd
      have hclient' := hclient.release_rested hopen hlife hid hserver hmoves
      exact ⟨_, ofClosed rfl hclient', .add (hasked ▸ .refl _) hclient.not_mem_held⟩
    | error e conn' =>
      simp only [hd]
      obtain ⟨ledger', hclient', hext⟩ := hclient.release_talk_error hopen htalk hd
      rw [Client.release_some] at hclient'
      refine ⟨ledger', ?_, hext⟩
      by_cases hspoils : e.spoilsConnection = true
      · rw [if_pos hspoils] at hclient' ⊢
        exact ofClosed rfl hclient'
      · rw [if_neg hspoils] at hclient' ⊢
        exact ofClosed rfl hclient'

/-- An open stream that is dropped closes its connection. -/
theorem drop (h : Sound home ledger held s) :
    ∃ ledger', Sound home ledger' held (RowStream.drop s).2 ∧
      Ledger.Extends [] held ledger ledger' := by
  obtain ⟨⟨_ | conn, failure⟩, c⟩ := s
  · exact ⟨ledger, h, .refl _ _ _⟩
  · have hopen := h.opened conn rfl
    have hclient : home.Sound ledger (conn.id :: held) c := h.client
    have hpast : Past home.config home.network (ledger conn.id ++ []) conn := by
      rw [List.append_nil]
      exact hopen.life.past
    exact ⟨_, ofClosed rfl (hclient.remove rfl hpast),
      .add (List.nil_sublist _) hclient.not_mem_held⟩

end Sound

/-! ## Closed streams -/

/-- A stream that has no next block is closed. -/
theorem closed_of_next_none (h : next s = (none, s')) : s'.1.connection = none := by
  obtain ⟨⟨_ | conn, failure⟩, c⟩ := s
  · cases h
    rfl
  · unfold next nextInto at h
    rcases hreply : conn.reply Policy.nextBlock c.exceptionLimit { block := .empty } with
      ⟨e | _ | _, tray, conn'⟩ <;> simp only [hreply] at h <;> cases h <;> rfl

theorem closed_pullAll (pulled : List Block) (s : RowStream σ × Client σ) :
    (pullAll pulled s).2.1.connection = none := by
  fun_induction pullAll pulled s with
  | case1 pulled s s' hnext => exact closed_of_next_none hnext
  | case2 pulled s block s' hnext ih => exact ih

end RowStream

/-! ## Queries -/

/-- The stream that is collected is pulled to its end. -/
theorem Client.after_collect (rows : RowStream σ) (c : Client σ) :
    (Client.collect rows).after c = (RowStream.pullAll [] (rows, c)).2.2 := by
  unfold Session.after Client.collect
  cases hfailure : (RowStream.pullAll [] (rows, c)).2.1.failure <;> simp only [hfailure]

namespace Client.Sound

theorem queryOn_ok {rows : RowStream σ} {sql : String} (h : home.Sound ledger (conn.id :: held) c)
    (hready : Client.Ready home (ledger conn.id) conn)
    (hquery : Client.queryOn sql conn c = .ok rows c') :
    ∃ ledger', RowStream.Sound home ledger' held (rows, c') ∧
      Ledger.Extends (home.helloes ++ [home.statement sql]) held ledger ledger' := by
  obtain ⟨conn₁, c₁, hwelcome, hrows⟩ := bind_eq_ok.mp hquery
  obtain ⟨ledger₁, hsound, hsettled, hext⟩ := h.welcome_ok hready hwelcome
  have htalk := talk_sendQuery home.network sql c₁
  rw [hsound.config_eq, hsound.statement_eq] at htalk
  unfold Client.openRows at hrows
  cases hd : c₁.sendQuery sql conn₁ with
  | error e conn' => simp [hd] at hrows
  | ok u conn' =>
    simp only [hd] at hrows
    cases hrows
    obtain ⟨new, hasked, hlife, hmoves, hid, hserver⟩ := htalk.of_ok hsettled.life hd
    have hopen : Open home.config home.network .waiting _ conn' := hsettled.go hlife hid hserver hmoves
    exact ⟨_, .ofOpen hsound hid hopen,
      hext.trans (.add (hasked ▸ .refl _) hsound.not_mem_held)⟩

theorem queryOn_error {e : Error} {sql : String} (h : home.Sound ledger (conn.id :: held) c)
    (hready : Client.Ready home (ledger conn.id) conn)
    (hquery : Client.queryOn sql conn c = .error e c') :
    ∃ ledger', home.Sound ledger' held c' ∧
      Ledger.Extends (home.helloes ++ [home.statement sql]) held ledger ledger' := by
  rcases bind_eq_error.mp hquery with hwelcome | ⟨conn₁, c₁, hwelcome, hrows⟩
  · obtain ⟨ledger₁, hsound, hext⟩ := h.welcome_error hready hwelcome
    exact ⟨ledger₁, hsound, hext.weaken (List.sublist_append_left _ _)⟩
  · obtain ⟨ledger₁, hsound, hsettled, hext⟩ := h.welcome_ok hready hwelcome
    have htalk := talk_sendQuery home.network sql c₁
    rw [hsound.config_eq, hsound.statement_eq] at htalk
    unfold Client.openRows at hrows
    cases hd : c₁.sendQuery sql conn₁ with
    | ok u conn' => simp [hd] at hrows
    | error e' conn' =>
      simp only [hd] at hrows
      cases hrows
      obtain ⟨ledger₂, hsound₂, hext₂⟩ := hsound.release_talk_error hsettled htalk hd
      exact ⟨ledger₂, hsound₂, hext.trans hext₂⟩

/-- A stream that is pulled to its end leaves nothing behind. -/
theorem collect {rows : RowStream σ} (h : RowStream.Sound home ledger held (rows, c)) :
    ∃ ledger', home.Sound ledger' held ((Client.collect rows).after c) ∧
      Ledger.Extends [] held ledger ledger' := by
  obtain ⟨ledger', hpulled, hext⟩ := h.pullAll []
  rw [Client.after_collect]
  exact ⟨ledger', hpulled.closed (RowStream.closed_pullAll [] (rows, c)), hext⟩

/-- A query whose answer is pulled at once leaves no stream behind. -/
theorem queryBlocksOn (h : home.Sound ledger (conn.id :: held) c)
    (hready : Client.Ready home (ledger conn.id) conn) (sql : String) :
    ∃ ledger', home.Sound ledger' held ((Client.queryBlocksOn sql conn).after c) ∧
      Ledger.Extends (home.helloes ++ [home.statement sql]) held ledger ledger' := by
  rw [Client.queryBlocksOn, Session.after_bind]
  cases hquery : Client.queryOn sql conn c with
  | error e c₁ => exact h.queryOn_error hready hquery
  | ok rows c₁ =>
    obtain ⟨ledger₁, hsound, hext⟩ := h.queryOn_ok hready hquery
    obtain ⟨ledger₂, hsound₂, hext₂⟩ := Client.Sound.collect hsound
    have hall := hext.trans hext₂
    rw [List.append_nil] at hall
    exact ⟨ledger₂, hsound₂, hall⟩

end Client.Sound

end ColumnWire
