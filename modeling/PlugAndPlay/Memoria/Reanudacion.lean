import PlugAndPlay.Memoria.Suspension

/-!
# What a resumed process reads

The round trip of a process through the swap file. Its suspension leaves each segment in the file or,
when it ran out of blocks, where it was; other processes keep it so; and its resumption brings back
what is in the file. It does not look whether a segment ever left RAM: such a segment is placed
anew, filled from blocks that are not its own, and the bytes it had are lost together with their
range.
-/

open PlugAndPlay.Library

namespace PlugAndPlay.Memoria

/-! ## While the process is suspended -/

/-- What is kept of a segment: still in RAM (after a suspension left half done), without bytes, or
its bytes in the file of the swap that is connected. -/
structure Retiene (aMedias : Prop) (memoria : ℕ → UInt8) (swap : Swap) (seg seg' : Segmento) :
    Prop where
  id : seg'.id = seg.id
  limite : seg'.limite = seg.limite
  donde : aMedias ∧ seg'.Residente ∨ seg.limite = 0 ∨
    0 ≤ swap.socket ∧ SinDesborde seg.limite swap.blockSize ∧
      Guardado swap seg' (ByteMemory.slice memoria seg.base.toNat seg.limite.toNat)

/-- A base that is no base leaves no room for bytes. -/
theorem residente_or_limite {seg : Segmento} {top : ℕ} (htop : top < 2 ^ 32)
    (h : seg.base.toNat + seg.limite.toNat ≤ top) : seg.Residente ∨ seg.limite = 0 := by
  by_cases hres : seg.Residente
  · exact Or.inl hres
  · right
    have hbase : seg.base = sinBase := not_not.mp hres
    rw [hbase, toNat_sinBase] at h
    apply UInt32.toNat_inj.mp
    rw [UInt32.toNat_zero]
    omega

section

variable {aMedias : Prop} {memoria : ℕ → UInt8} {swap swap' : Swap} {seg seg' seg₁ seg₂ : Segmento}
  {top : ℕ}

theorem Conserva.retiene (h : Conserva memoria swap seg seg') (htop : top < 2 ^ 32)
    (hseg : seg.base.toNat + seg.limite.toNat ≤ top) (hmedias : aMedias ∨ ¬ seg'.Residente)
    (hsocket : 0 ≤ swap.socket) (hsin : SinDesborde seg.limite swap.blockSize) :
    Retiene aMedias memoria swap seg seg' := by
  refine ⟨h.id, h.limite, ?_⟩
  rcases h.donde with rfl | ⟨_, hguardado⟩
  · rcases residente_or_limite htop hseg with hres | hcero
    · exact Or.inl ⟨hmedias.resolve_right (not_not.mpr hres), hres⟩
    · exact Or.inr (Or.inl hcero)
  · exact Or.inr (Or.inr ⟨hsocket, hsin, hguardado⟩)

/-- The swap file grows behind the segment, or connects when nothing is in it. -/
theorem Retiene.crece (h : Retiene aMedias memoria swap seg seg') (hswap : swap.Configurado)
    (hcrece : 0 ≤ swap.socket → SwapCrece swap swap') :
    Retiene aMedias memoria swap' seg seg' := by
  refine ⟨h.id, h.limite, h.donde.imp_right fun hdonde ↦
    hdonde.imp_right fun ⟨hsocket, hsin, hguardado⟩ ↦ ?_⟩
  have hcrece := hcrece hsocket
  refine ⟨?_, ?_, ?_⟩
  · rw [hcrece.socket]
    exact hsocket
  · rw [hcrece.blockSize]
    exact hsin
  · rw [← h.limite] at hsin
    exact hguardado.crece (hswap hsocket) hsin hcrece

theorem Retiene.reubica (h : Retiene aMedias memoria swap seg seg₁) (hmov : Reubicado top seg₁ seg₂)
    (htop : top < 2 ^ 32) : Retiene aMedias memoria swap seg seg₂ := by
  rcases hmov with ⟨_, rfl⟩ | ⟨_, base, rfl, hfin⟩
  · exact h
  · refine ⟨h.id, h.limite, ?_⟩
    have hcaso : ({ seg₁ with base := base } : Segmento).Residente ∨ seg₁.limite = 0 :=
      residente_or_limite htop hfin
    rw [h.limite] at hcaso
    rcases hcaso with hres | hcero
    · rcases h.donde with ⟨hmedias, _⟩ | hcero | ⟨hsocket, hsin, hguardado⟩
      · exact Or.inl ⟨hmedias, hres⟩
      · exact Or.inr (Or.inl hcero)
      · exact Or.inr (Or.inr ⟨hsocket, hsin, hguardado.bloques, hguardado.bytes⟩)
    · exact Or.inr (Or.inl hcero)

end

/-- A suspended process between its suspension and its resumption. -/
structure Retenido (aMedias : Prop) (memoria : ℕ → UInt8) (segmentos : List Segmento) (pid : ℤ)
    (m : KernelMemory) : Prop where
  configurado : m.swap.Configurado
  tabla : ∃ p, procesosBuscar m.procesos pid = some p ∧
    List.Forall₂ (Retiene aMedias memoria m.swap) segmentos p.segmentos

section

variable {fugas aMedias : Prop} {memoria : ℕ → UInt8} {segmentos : List Segmento} {pid : ℤ}
  {m m' : KernelMemory}

/-- An operation of another process keeps a suspended process as it is. -/
theorem Retenido.paso {qsort : Qsort} {c c' : Corrida} {op : Operacion}
    (h : Retenido aMedias memoria segmentos pid c.memoria)
    (hinv : Repartida fugas True [] c.memoria c.suspendidos) (hop : op.pid ≠ some pid)
    (hpaso : c.paso qsort op = some c') :
    Retenido aMedias memoria segmentos pid c'.memoria ∧ c'.memoria.config = c.memoria.config := by
  obtain ⟨p, hp, hsegs⟩ := h.tabla
  have hpid : p.pid = pid := procesosBuscar_pid hp
  rw [← hpid] at hp hop
  obtain ⟨hconfig, p', hp', hcaso⟩ := hinv.ajena hp hop hpaso
  rw [hpid] at hp'
  have hswap : 0 ≤ c.memoria.swap.socket → SwapCrece c.memoria.swap c'.memoria.swap :=
    fun hsocket ↦ (hinv.paso_swap hpaso).resolve_right fun hno ↦ absurd hno.1 (not_lt.mpr hsocket)
  have hcrece : List.Forall₂ (Retiene aMedias memoria c'.memoria.swap) segmentos p.segmentos :=
    hsegs.imp fun _ _ hseg ↦ hseg.crece h.configurado hswap
  refine ⟨⟨hinv.configurado hpaso h.configurado, p', hp', ?_⟩, hconfig⟩
  rcases hcaso with rfl | ⟨top, htop, hmov⟩
  · exact hcrece
  · exact Pointwise.forall₂_trans hcrece hmov fun _ _ _ hret hreub ↦ hret.reubica hreub htop

/-- A whole run of other processes. -/
theorem Retenido.corrida {qsort : Qsort} {c c' : Corrida}
    (hrun : Reachable (Corrida.paso qsort) (· = c)
      (fun c op ↦ op.pid ≠ some pid ∧ (fugas ∨ c.SinFuga op)) c')
    (hinv : Repartida fugas True [] c.memoria c.suspendidos)
    (hret : Retenido aMedias memoria segmentos pid c.memoria) :
    Repartida fugas True [] c'.memoria c'.suspendidos ∧ Retenido aMedias memoria segmentos pid c'.memoria ∧
      c'.memoria.config = c.memoria.config := by
  apply hrun.invariant (P := fun s ↦ Repartida fugas True [] s.memoria s.suspendidos ∧
    Retenido aMedias memoria segmentos pid s.memoria ∧ s.memoria.config = c.memoria.config)
  · rintro s rfl
    exact ⟨hinv, hret, rfl⟩
  · rintro s op s' ⟨hinv, hret, hconfig⟩ ⟨hop, hfugas⟩ hpaso
    obtain ⟨hret', hconfig'⟩ := hret.paso hinv hop hpaso
    exact ⟨hinv.paso hfugas (Or.inl trivial) hpaso, hret', hconfig'.trans hconfig⟩

/-! ## The suspension -/

/-- A suspension leaves the process retained: half done if it did not run to its end. -/
theorem Repartida.retenido {otras : Prop} {suspendidos : List ℤ} {p : Proceso}
    {fin : FinSuspension} (h : Repartida fugas otras [] m suspendidos) (hsana : m.ram.Sana)
    (hp : procesosBuscar m.procesos pid = some p) (hno : pid ∉ suspendidos)
    (hswap : m.swap.Configurado)
    (hsin : ∀ seg ∈ p.segmentos, SinDesborde seg.limite m.swap.blockSize)
    (hfin : suspenderProceso m pid = (fin, m')) (hfallo : fin ≠ .fallo)
    (hmedias : aMedias ∨ fin = .completa) :
    Retenido aMedias (plano m.ram.tabla) p.segmentos pid m' ∧ m'.config = m.config := by
  have hdentro := h.segmentos_le hp hno
  have htotal : m.ram.total = sumaSticks m.ram.tabla := m.ram.total_eq h.suma
  unfold suspenderProceso at hfin
  simp only [hp] at hfin
  split at hfin
  · obtain ⟨rfl, rfl⟩ := Prod.mk.inj hfin
    refine ⟨⟨hswap, p, hp, List.forall₂_same.mpr fun seg hseg ↦ ?_⟩, rfl⟩
    refine ⟨rfl, rfl, ?_⟩
    rcases residente_or_limite h.suma (hdentro seg hseg) with hres | hcero
    · exact Or.inl ⟨hmedias.resolve_right nofun, hres⟩
    · exact Or.inr (Or.inl hcero)
  · rename_i hsocket
    have hbs := hswap (not_lt.mp hsocket)
    obtain ⟨fin', segmentos', m₁, hloop⟩ : ∃ fin segmentos m',
        suspenderSegmentos p.segmentos m = (fin, segmentos, m') := ⟨_, _, _, rfl⟩
    rw [hloop] at hfin
    obtain ⟨rfl, rfl⟩ := Prod.mk.inj hfin
    have hs := suspenderSegmentos_suspendidos h.suma h.within_libres hdentro hloop
    have hcrece := suspenderSegmentos_crece hloop hfallo
    obtain ⟨_, hsegs⟩ := suspenderSegmentos_conserva hloop hfallo hsana hbs hsin
      (by rw [htotal]; exact hdentro)
    have hret : List.Forall₂ (Retiene aMedias (plano m.ram.tabla) m₁.swap) p.segmentos
        segmentos' := by
      have hmem := Pointwise.forall₂_mem_right ((List.forall₂_and_left _ _).mpr
        ⟨fun seg hseg ↦ And.intro (hdentro seg hseg) (hsin seg hseg), hsegs⟩)
      refine hmem.imp fun seg seg' ⟨⟨⟨hseg, hcabe⟩, hconserva⟩, hseg'⟩ ↦ ?_
      refine hconserva.retiene h.suma hseg (hmedias.imp_right fun hfin ↦ hs.completa hfin seg' hseg')
        ?_ ?_
      · rw [hcrece.socket]
        exact not_lt.mp hsocket
      · rw [hcrece.blockSize]
        exact hcabe
    refine ⟨⟨?_, { p with segmentos := segmentos' }, ?_, hret⟩, hs.config⟩
    · intro _
      show 0 < m₁.swap.blockSize.toNat
      rw [hcrece.blockSize]
      exact hbs
    · have hp₁ : procesosBuscar m₁.procesos pid = some p := by
        rw [hs.procesos]
        exact hp
      exact procesosBuscar_mismo hp₁ fun _ ↦ rfl

/-! ## The resumption -/

/-- A segment after the resumption: at its new place it holds its old bytes. -/
structure Restaurado (memoria : ℕ → UInt8) (ram : Ram) (seg seg' : Segmento) : Prop where
  id : seg'.id = seg.id
  limite : seg'.limite = seg.limite
  residente : seg'.Residente
  dentro : seg'.base.toNat + seg'.limite.toNat ≤ ram.total
  bytes : ByteMemory.slice (plano ram.tabla) seg'.base.toNat seg'.limite.toNat =
    ByteMemory.slice memoria seg.base.toNat seg.limite.toNat

/-- The reservations keep everything of a segment but its base. -/
theorem reservarSegmentos_iguales {worstFit : Bool} {segmentos reservas : List Segmento}
    {libres resto : List BloqueLibre}
    (h : reservarSegmentos worstFit segmentos libres = (true, reservas, resto)) :
    List.Forall₂ (fun seg seg' : Segmento ↦ seg'.id = seg.id ∧ seg'.limite = seg.limite ∧
      seg'.swapBloqueInicio = seg.swapBloqueInicio) segmentos reservas := by
  have hsin := reservarSegmentos_sinBases h
  have hlargo := congrArg List.length hsin
  simp only [List.length_map] at hlargo
  apply Pointwise.forall₂_of_getElem? hlargo.symm
  intro i seg seg' hseg hseg'
  have hi := congrArg (fun l ↦ l[i]?) hsin
  simp only [List.getElem?_map, hseg, hseg', Option.map_some, Option.some.injEq,
    Segmento.mk.injEq, true_and] at hi
  exact hi

/-- A resumption that leaves no bytes behind in RAM restores every segment. -/
theorem Retenido.reanudar {otras : Prop} {suspendidos : List ℤ}
    (hret : Retenido aMedias memoria segmentos pid m) (h : Repartida fugas otras [] m suspendidos)
    (hsana : m.ram.Sana) (hfin : desSuspenderProceso m pid = (.completa, m'))
    (hsin : aMedias → ∀ p, procesosBuscar m.procesos pid = some p →
      ∀ seg ∈ p.segmentos, seg.Residente → seg.limite = 0) :
    m'.ram.Sana ∧ m'.config = m.config ∧ ∃ p', procesosBuscar m'.procesos pid = some p' ∧
      List.Forall₂ (Restaurado memoria m'.ram) segmentos p'.segmentos := by
  rcases desSuspenderProceso_cases h hfin nofun with
    ⟨hno, _⟩ | ⟨p, reservas, libres, _, hp, hsocket, hreservar, htransferir, hreservas, _, _⟩
  · exact absurd rfl hno
  obtain ⟨q, hq, hsegs⟩ := hret.tabla
  obtain rfl : p = q := Option.some.inj (hp.symm.trans hq)
  have htotal : m.ram.total = sumaSticks m.ram.tabla := m.ram.total_eq h.suma
  obtain ⟨_, _, hhits⟩ := reservarSegmentos_rangos h.suma h.within_libres hreservar
  -- segment by segment: the original, the one in the table, the reservation
  have hpares : List.Forall₂ (fun seg seg' ↦ (seg'.id = seg.id ∧ seg'.limite = seg.limite ∧
      SinDesborde seg.limite m.swap.blockSize ∧ (seg.limite = 0 ∨ Guardado m.swap seg'
        (ByteMemory.slice memoria seg.base.toNat seg.limite.toNat))) ∧ seg' ∈ reservas)
      segmentos reservas := by
    apply Pointwise.forall₂_mem_right
    refine Pointwise.forall₂_trans (Pointwise.forall₂_mem_right hsegs)
      (reservarSegmentos_iguales hreservar) fun seg seg₁ seg₂ ⟨hretiene, hmem⟩
        ⟨hid, hlimite, hinicio⟩ ↦ ?_
    have hvacio : seg.limite = 0 → SinDesborde seg.limite m.swap.blockSize := by
      intro hcero
      rw [hcero]
      exact sinDesborde_cero _
    refine ⟨hid.trans hretiene.id, hlimite.trans hretiene.limite, ?_⟩
    rcases hretiene.donde with ⟨hmedias, hres⟩ | hcero | ⟨_, hcabe, hguardado⟩
    · have hcero : seg.limite = 0 := by
        rw [← hretiene.limite]
        exact hsin hmedias p hp seg₁ hmem hres
      exact ⟨hvacio hcero, Or.inl hcero⟩
    · exact ⟨hvacio hcero, Or.inl hcero⟩
    · refine ⟨hcabe, Or.inr ⟨?_, ?_⟩⟩
      · rw [hlimite, hinicio]
        exact hguardado.bloques
      · rw [hlimite, hinicio]
        exact hguardado.bytes
  have hrestaurables : Restaurables (ponerSegmentos { m with bloquesLibres := libres } pid reservas)
      reservas := by
    refine ⟨fun seg' hseg' ↦ ?_, fun seg' hseg' ↦ ?_, fun address ↦ ?_⟩
    · show seg'.Residente ∧ seg'.base.toNat + seg'.limite.toNat ≤ m.ram.total
      rw [htotal]
      exact hreservas seg' hseg'
    · obtain ⟨seg, _, ⟨_, hlimite, hcabe, hdonde⟩, _⟩ :=
        Pointwise.exists_of_mem_right hpares hseg'
      refine ⟨by rw [hlimite]; exact hcabe, fun hno ↦ ?_⟩
      rcases hdonde with hcero | hguardado
      · exact absurd (hlimite.trans hcero) hno
      · exact hguardado.bloques.trans_lt m.swap.nextBlock.toNat_lt
    · have huna := h.juntos.disjoint address
      have hlibres := hhits address
      rw [List.nil_append, KernelMemory.hits_ocupacion] at huna
      omega
  obtain ⟨hsana', htotal', hbytes, _⟩ :=
    transferirSwapARam_bytes htransferir hsana (hret.configurado hsocket) hrestaurables
  have hdisp := transferirSwapARam_soloDispositivos reservas
    (ponerSegmentos { m with bloquesLibres := libres } pid reservas)
  rw [htransferir] at hdisp
  refine ⟨hsana', hdisp.config, { p with segmentos := reservas }, ?_, ?_⟩
  · rw [hdisp.procesos]
    exact procesosBuscar_mismo hp fun _ ↦ rfl
  · refine hpares.imp fun seg seg' ⟨⟨hid, hlimite, _, hdonde⟩, hmem⟩ ↦ ?_
    obtain ⟨hres, hfin⟩ := hrestaurables.dentro seg' hmem
    refine ⟨hid, hlimite, hres, by rw [htotal']; exact hfin, ?_⟩
    rw [hbytes seg' hmem]
    rcases hdonde with hcero | hguardado
    · rw [hlimite, hcero]
      rfl
    · exact hguardado.bytes

end

end PlugAndPlay.Memoria
