import PlugAndPlay.Memoria.Scheduler

/-!
# What the requests do to the ranges

One lemma for each piece of the handlers: which ranges it moves between the free list and the
segment tables. Transfers move none; a suspension gives back the ranges of the segments it
suspended, a resumption takes new ones, and its rollback returns exactly what was taken.
-/

open PlugAndPlay.Library ByteRange

namespace PlugAndPlay.Memoria

/-! ## Transfers -/

/-- The part of the swap that block transfers leave alone. -/
def Swap.fijo (swap : Swap) : ℤ × UInt32 × UInt32 × UInt32 × UInt32 :=
  (swap.socket, swap.blockSize, swap.nextBlock, swap.totalBlocks, swap.swapFileSize)

/-- Only bytes on the devices, and which of their transfers are still to fail, may differ. -/
structure SoloDispositivos (m m' : KernelMemory) : Prop where
  procesos : m'.procesos = m.procesos
  libres : m'.bloquesLibres = m.bloquesLibres
  config : m'.config = m.config
  tabla : MismaTabla m'.ram.tabla m.ram.tabla
  swap : m'.swap.fijo = m.swap.fijo

theorem SoloDispositivos.refl (m : KernelMemory) : SoloDispositivos m m :=
  ⟨rfl, rfl, rfl, MismaTabla.refl _, rfl⟩

theorem SoloDispositivos.trans {m m' m₂ : KernelMemory} (h : SoloDispositivos m m')
    (h' : SoloDispositivos m' m₂) : SoloDispositivos m m₂ :=
  ⟨h'.procesos.trans h.procesos, h'.libres.trans h.libres, h'.config.trans h.config,
    h'.tabla.trans h.tabla, h'.swap.trans h.swap⟩

theorem fijo_siguienteCorte (swap : Swap) : swap.siguienteCorte.2.fijo = swap.fijo := by
  unfold Swap.siguienteCorte
  split <;> rfl

theorem fijo_swapEscribirBloque (swap : Swap) (bloque : UInt32) (datos : List UInt8) :
    (swapEscribirBloque swap bloque datos).2.fijo = swap.fijo := by
  have hcorte := fijo_siguienteCorte swap
  unfold swapEscribirBloque
  split
  · rfl
  · split
    · rename_i h
      rwa [h] at hcorte
    · rename_i h
      rw [h] at hcorte
      split
      · exact hcorte
      · exact hcorte

theorem fijo_swapLeerBloque (swap : Swap) (bloque : UInt32) :
    (swapLeerBloque swap bloque).2.fijo = swap.fijo := by
  have hcorte := fijo_siguienteCorte swap
  unfold swapLeerBloque
  split
  · rfl
  · split
    · rename_i h
      rwa [h] at hcorte
    · rename_i h
      rw [h] at hcorte
      split
      · exact hcorte
      · exact hcorte

theorem volcarBloques_soloDispositivos (seg : Segmento) (restantes : ℕ) (b : UInt32)
    (m : KernelMemory) : SoloDispositivos m (volcarBloques seg restantes b m).2 := by
  induction restantes generalizing b m with
  | zero => exact SoloDispositivos.refl m
  | succ restantes ih =>
    have hleer := tabla_memoryIoLeer m.ram (seg.base + b * m.swap.blockSize)
      (chunkDeBloque seg.limite m.swap.blockSize b)
    simp only [volcarBloques]
    split
    · rename_i h
      rw [h] at hleer
      exact ⟨rfl, rfl, rfl, by rw [← hleer]; exact MismaTabla.refl _, rfl⟩
    · rename_i datos ram h
      rw [h] at hleer
      have hswap := fijo_swapEscribirBloque m.swap (seg.swapBloqueInicio + b)
        (datos ++ List.replicate (m.swap.blockSize.toNat - datos.length) 0)
      split
      · rename_i h'
        rw [h'] at hswap
        exact ⟨rfl, rfl, rfl, by rw [← hleer]; exact MismaTabla.refl _, hswap⟩
      · rename_i h'
        rw [h'] at hswap
        refine SoloDispositivos.trans ?_ (ih _ _)
        exact ⟨rfl, rfl, rfl, by rw [← hleer]; exact MismaTabla.refl _, hswap⟩

theorem transferirBloques_soloDispositivos (seg : Segmento) (restantes : ℕ) (b : UInt32)
    (m : KernelMemory) : SoloDispositivos m (transferirBloques seg restantes b m).2 := by
  induction restantes generalizing b m with
  | zero => exact SoloDispositivos.refl m
  | succ restantes ih =>
    have hswap := fijo_swapLeerBloque m.swap (seg.swapBloqueInicio + b)
    simp only [transferirBloques]
    split
    · rename_i h
      rw [h] at hswap
      exact ⟨rfl, rfl, rfl, MismaTabla.refl _, hswap⟩
    · rename_i h
      rw [h] at hswap
      refine SoloDispositivos.trans ?_ (ih _ _)
      exact ⟨rfl, rfl, rfl, mismaTabla_memoryIoEscribir _ _ _ _, hswap⟩

theorem transferirSwapARam_soloDispositivos (segmentos : List Segmento) (m : KernelMemory) :
    SoloDispositivos m (transferirSwapARam segmentos m).2 := by
  induction segmentos generalizing m with
  | nil => exact SoloDispositivos.refl m
  | cons seg resto ih =>
    have hseg := transferirBloques_soloDispositivos seg
      (cantidadBloques seg.limite m.swap.blockSize).toNat 0 m
    unfold transferirSwapARam
    split
    · rename_i h
      rwa [h] at hseg
    · rename_i h
      rw [h] at hseg
      exact hseg.trans (ih _)

/-! ## Allocation and release -/

section Rangos

variable {top : ℕ}

/-- An allocation that returns `sinBase` took nothing, any other took the range it names. -/
theorem bloquesAsignar_reparto {worstFit : Bool} {libres : List BloqueLibre} {tamanio : UInt32}
    (htop : top < 2 ^ 32) (hw : Within (rangosLibres libres) top) {base : UInt32}
    {resto : List BloqueLibre} (h : bloquesAsignar worstFit libres tamanio = (base, resto)) :
    Within (rangosLibres resto) top ∧
      (base = sinBase ∧ (∀ address, hits (rangosLibres resto) address = hits (rangosLibres libres) address) ∨
        base ≠ sinBase ∧ base.toNat + tamanio.toNat ≤ top ∧
          ∀ address, hits (rangosLibres libres) address =
            hits [⟨base.toNat, tamanio.toNat⟩] address + hits (rangosLibres resto) address) := by
  rcases bloquesAsignar_rangos worstFit tamanio htop hw with
    ⟨heq, _⟩ | ⟨base', resto', heq, hfin, hwresto, hhits⟩
  · rw [heq] at h
    obtain ⟨rfl, rfl⟩ := Prod.mk.inj h
    exact ⟨hw, Or.inl ⟨rfl, fun _ ↦ rfl⟩⟩
  · rw [heq] at h
    obtain ⟨rfl, rfl⟩ := Prod.mk.inj h
    refine ⟨hwresto, ?_⟩
    by_cases hbase : base' = sinBase
    · -- a block of no bytes at the very end of the 32-bit addresses
      refine Or.inl ⟨hbase, fun address ↦ ?_⟩
      have hcero : tamanio.toNat = 0 := by
        rw [hbase, toNat_sinBase] at hfin
        omega
      rw [hhits address, hcero, hits_empty_range, Nat.zero_add]
    · exact Or.inr ⟨hbase, hfin, hhits⟩

theorem liberarSegmentos_rangos {segmentos : List Segmento} {libres : List BloqueLibre}
    (htop : top < 2 ^ 32) (hw : Within (rangosLibres libres) top)
    (hsegs : Within (rangosSegmentos segmentos) top) :
    Within (rangosLibres (liberarSegmentos segmentos libres)) top ∧
      ∀ address, hits (rangosLibres (liberarSegmentos segmentos libres)) address =
        hits (rangosLibres libres) address + hits (rangosSegmentos segmentos) address := by
  induction segmentos generalizing libres with
  | nil => exact ⟨hw, fun _ ↦ rfl⟩
  | cons seg resto ih =>
    rw [rangosSegmentos_cons] at hsegs ⊢
    obtain ⟨hseg, hresto⟩ := within_append.mp hsegs
    by_cases hres : seg.Residente
    · rw [if_pos hres] at hseg ⊢
      obtain ⟨hw₁, hhits₁⟩ := bloquesLiberar_rangos seg.base seg.limite htop hw
        (within_cons.mp hseg).1
      obtain ⟨hw₂, hhits₂⟩ := ih hw₁ hresto
      have hpaso : liberarSegmentos (seg :: resto) libres =
          liberarSegmentos resto (bloquesLiberar libres seg.base seg.limite) := by
        simp only [liberarSegmentos, List.foldl_cons, if_pos hres]
      rw [hpaso]
      refine ⟨hw₂, fun address ↦ ?_⟩
      have hrango : hits [seg.rango] address = hits [⟨seg.base.toNat, seg.limite.toNat⟩] address := rfl
      rw [hhits₂, hhits₁, hits_append, hrango]
      omega
    · rw [if_neg hres]
      have hpaso : liberarSegmentos (seg :: resto) libres = liberarSegmentos resto libres := by
        simp only [liberarSegmentos, List.foldl_cons, if_neg hres]
      rw [hpaso, List.nil_append]
      exact ih hw hresto

/-! ## Suspension and resumption -/

/-- The three ways through one round of the suspension loop: no blocks, a failed copy, or the
segment in the swap file and the loop over the others. -/
theorem suspenderSegmentos_cons_cases {seg : Segmento} {resto segmentos' : List Segmento}
    {m m' : KernelMemory} {fin : FinSuspension}
    (h : suspenderSegmentos (seg :: resto) m = (fin, segmentos', m')) :
    (fin = .sinBloques ∧ segmentos' = seg :: resto ∧ m' = m) ∨
      ∃ bloqueInicio swap, swapReservarBloques m.swap
          (cantidadBloques seg.limite m.swap.blockSize) = (bloqueInicio, swap) ∧
        bloqueInicio ≠ sinBase ∧
        ((fin = .fallo ∧ segmentos' = { seg with swapBloqueInicio := bloqueInicio } :: resto ∧
            volcarSegmentoASwap { seg with swapBloqueInicio := bloqueInicio }
              { m with swap := swap } = (false, m')) ∨
          ∃ m₁ resto', volcarSegmentoASwap { seg with swapBloqueInicio := bloqueInicio }
              { m with swap := swap } = (true, m₁) ∧
            suspenderSegmentos resto
              { m₁ with bloquesLibres := bloquesLiberar m₁.bloquesLibres seg.base seg.limite } =
                (fin, resto', m') ∧
            segmentos' =
              { seg with base := sinBase, swapBloqueInicio := bloqueInicio } :: resto') := by
  obtain ⟨bloqueInicio, swap, hreserva⟩ : ∃ b swap, swapReservarBloques m.swap
      (cantidadBloques seg.limite m.swap.blockSize) = (b, swap) := ⟨_, _, rfl⟩
  simp only [suspenderSegmentos, hreserva] at h
  split at h
  · obtain ⟨hfin, hresto⟩ := Prod.mk.inj h
    obtain ⟨hsegs, hm⟩ := Prod.mk.inj hresto
    exact Or.inl ⟨hfin.symm, hsegs.symm, hm.symm⟩
  · rename_i hinicio
    refine Or.inr ⟨bloqueInicio, swap, hreserva, hinicio, ?_⟩
    split at h
    · rename_i m₁ hvolcar
      obtain ⟨hfin, hresto⟩ := Prod.mk.inj h
      obtain ⟨hsegs, rfl⟩ := Prod.mk.inj hresto
      exact Or.inl ⟨hfin.symm, hsegs.symm, hvolcar⟩
    · rename_i m₁ hvolcar
      obtain ⟨fin₂, segs₂, m₂, hrec⟩ : ∃ fin₂ segs₂ m₂, suspenderSegmentos resto
          { m₁ with bloquesLibres := bloquesLiberar m₁.bloquesLibres seg.base seg.limite } =
            (fin₂, segs₂, m₂) := ⟨_, _, _, rfl⟩
      rw [hrec] at h
      obtain ⟨rfl, hresto⟩ := Prod.mk.inj h
      obtain ⟨hsegs, rfl⟩ := Prod.mk.inj hresto
      exact Or.inr ⟨m₁, segs₂, hvolcar, hrec, hsegs.symm⟩

/-- The loop works on a process that was found. -/
theorem suspenderSegmentos_fin {segmentos segmentos' : List Segmento} {m m' : KernelMemory}
    {fin : FinSuspension} (h : suspenderSegmentos segmentos m = (fin, segmentos', m')) :
    fin ≠ .sinProceso ∧ fin ≠ .sinSwap := by
  induction segmentos generalizing m fin segmentos' m' with
  | nil =>
    obtain rfl := (Prod.mk.inj h).1
    exact ⟨nofun, nofun⟩
  | cons seg resto ih =>
    rcases suspenderSegmentos_cons_cases h with
      ⟨rfl, _, _⟩ | ⟨_, _, _, _, ⟨rfl, _, _⟩ | ⟨_, _, _, hrec, _⟩⟩
    · exact ⟨nofun, nofun⟩
    · exact ⟨nofun, nofun⟩
    · exact ih hrec

/-- What the suspension loop does to the ranges, however it ends: it moves those of the segments it
suspended to the free list. Every segment it returns is still where it was, or swapped; when the
loop ran to its end, all are swapped. -/
structure Suspendidos (top : ℕ) (segmentos segmentos' : List Segmento) (fin : FinSuspension)
    (m m' : KernelMemory) : Prop where
  procesos : m'.procesos = m.procesos
  config : m'.config = m.config
  tabla : MismaTabla m'.ram.tabla m.ram.tabla
  within : Within (rangosLibres m'.bloquesLibres) top
  hits : ∀ address, ByteRange.hits (rangosLibres m'.bloquesLibres) address +
      ByteRange.hits (rangosSegmentos segmentos') address =
    ByteRange.hits (rangosLibres m.bloquesLibres) address +
      ByteRange.hits (rangosSegmentos segmentos) address
  donde : ∀ seg ∈ segmentos', ¬ seg.Residente ∨ seg.base.toNat + seg.limite.toNat ≤ top
  completa : fin = .completa → ∀ seg ∈ segmentos', ¬ seg.Residente

theorem suspenderSegmentos_suspendidos {segmentos : List Segmento} {m : KernelMemory}
    (htop : top < 2 ^ 32) (hw : Within (rangosLibres m.bloquesLibres) top)
    (hsegs : ∀ seg ∈ segmentos, seg.base.toNat + seg.limite.toNat ≤ top)
    {fin : FinSuspension} {segmentos' : List Segmento} {m' : KernelMemory}
    (h : suspenderSegmentos segmentos m = (fin, segmentos', m')) :
    Suspendidos top segmentos segmentos' fin m m' := by
  induction segmentos generalizing m fin segmentos' m' with
  | nil =>
    obtain ⟨rfl, rfl, rfl⟩ : fin = .completa ∧ segmentos' = [] ∧ m' = m := by
      simpa [suspenderSegmentos, eq_comm] using h
    exact ⟨rfl, rfl, MismaTabla.refl _, hw, fun _ ↦ rfl, by simp, by simp⟩
  | cons seg resto ih =>
    obtain ⟨hseg, hresto⟩ := List.forall_mem_cons.mp hsegs
    rcases suspenderSegmentos_cons_cases h with ⟨rfl, rfl, rfl⟩ | ⟨inicio, swap, _, _, hcaso⟩
    · exact ⟨rfl, rfl, MismaTabla.refl _, hw, fun _ ↦ rfl, fun s hs ↦ Or.inr (hsegs s hs), nofun⟩
    · have hdisp := volcarBloques_soloDispositivos { seg with swapBloqueInicio := inicio }
        (cantidadBloques seg.limite swap.blockSize).toNat 0 { m with swap := swap }
      rcases hcaso with ⟨rfl, rfl, hvolcar⟩ | ⟨m₁, resto', hvolcar, hrec, rfl⟩
      · rw [show volcarBloques _ _ _ _ = _ from hvolcar] at hdisp
        have hlibres : m'.bloquesLibres = m.bloquesLibres := hdisp.libres
        exact
          { procesos := hdisp.procesos
            config := hdisp.config
            tabla := hdisp.tabla
            within := by rw [hlibres]; exact hw
            hits := fun address ↦ by rw [hlibres, rangosSegmentos_cons, rangosSegmentos_cons]; rfl
            donde := List.forall_mem_cons.mpr ⟨Or.inr hseg, fun s hs ↦ Or.inr (hresto s hs)⟩
            completa := nofun }
      · rw [show volcarBloques _ _ _ _ = _ from hvolcar] at hdisp
        have hlibres : m₁.bloquesLibres = m.bloquesLibres := hdisp.libres
        obtain ⟨hw₁, hhits₁⟩ := bloquesLiberar_rangos seg.base seg.limite htop hw hseg
        have hcola := ih
          (m := { m₁ with bloquesLibres := bloquesLiberar m₁.bloquesLibres seg.base seg.limite })
          (by rw [hlibres]; exact hw₁) hresto hrec
        have hno : ¬ ({ seg with base := sinBase, swapBloqueInicio := inicio } : Segmento).Residente :=
          fun hres ↦ hres rfl
        exact
          { procesos := hcola.procesos.trans hdisp.procesos
            config := hcola.config.trans hdisp.config
            tabla := hcola.tabla.trans hdisp.tabla
            within := hcola.within
            hits := fun address ↦ by
              have h₁ := hhits₁ address
              have h₂ := hcola.hits address
              rw [rangosSegmentos_cons, if_neg hno, List.nil_append,
                hits_rangosSegmentos_cons htop hseg]
              simp only [hlibres] at h₂
              simp only [Segmento.rango]
              omega
            donde := List.forall_mem_cons.mpr ⟨Or.inl hno, hcola.donde⟩
            completa := fun hfin ↦ List.forall_mem_cons.mpr ⟨hno, hcola.completa hfin⟩ }

/-- What reservations do: they take the ranges of the segments they returned. -/
theorem reservarSegmentos_rangos {worstFit : Bool} {segmentos reservas : List Segmento}
    {libres resto : List BloqueLibre} {todo : Bool} (htop : top < 2 ^ 32)
    (hw : Within (rangosLibres libres) top)
    (h : reservarSegmentos worstFit segmentos libres = (todo, reservas, resto)) :
    Within (rangosLibres resto) top ∧
      (∀ seg ∈ reservas, seg.Residente ∧ seg.base.toNat + seg.limite.toNat ≤ top) ∧
      ∀ address, hits (rangosLibres libres) address =
        hits (rangosSegmentos reservas) address + hits (rangosLibres resto) address := by
  induction segmentos generalizing libres reservas resto todo with
  | nil =>
    obtain ⟨-, rfl, rfl⟩ : true = todo ∧ [] = reservas ∧ libres = resto := by
      simpa [reservarSegmentos] using h
    exact ⟨hw, by simp, fun _ ↦ by simp⟩
  | cons seg cola ih =>
    obtain ⟨base, libres₁, hasignar⟩ : ∃ base libres₁,
        bloquesAsignar worstFit libres seg.limite = (base, libres₁) := ⟨_, _, rfl⟩
    obtain ⟨hw₁, hreparto⟩ := bloquesAsignar_reparto htop hw hasignar
    simp only [reservarSegmentos, hasignar] at h
    rcases hreparto with ⟨hbase, hhits⟩ | ⟨hbase, hfin, hhits⟩
    · rw [if_pos hbase] at h
      obtain ⟨-, rfl, rfl⟩ : false = todo ∧ [] = reservas ∧ libres₁ = resto := by simpa using h
      exact ⟨hw₁, by simp, fun address ↦ by simp [hhits address]⟩
    · rw [if_neg hbase] at h
      obtain ⟨todo₂, reservas₂, libres₂, hrec⟩ : ∃ todo₂ reservas₂ libres₂,
          reservarSegmentos worstFit cola libres₁ = (todo₂, reservas₂, libres₂) := ⟨_, _, _, rfl⟩
      rw [hrec] at h
      obtain ⟨-, rfl, rfl⟩ : todo₂ = todo ∧ { seg with base := base } :: reservas₂ = reservas ∧
          libres₂ = resto := by simpa using h
      obtain ⟨hw₂, hreservas, hhits₂⟩ := ih hw₁ hrec
      refine ⟨hw₂, List.forall_mem_cons.mpr ⟨⟨hbase, hfin⟩, hreservas⟩, fun address ↦ ?_⟩
      have h₁ := hhits address
      have h₂ := hhits₂ address
      have h₃ : hits (rangosSegmentos ({ seg with base := base } :: reservas₂)) address =
          hits [⟨base.toNat, seg.limite.toNat⟩] address + hits (rangosSegmentos reservas₂) address :=
        hits_rangosSegmentos_cons htop hfin address
      omega

/-- The reservations keep everything of a segment but its base. -/
theorem reservarSegmentos_sinBases {worstFit : Bool} {segmentos reservas : List Segmento}
    {libres resto : List BloqueLibre}
    (h : reservarSegmentos worstFit segmentos libres = (true, reservas, resto)) :
    reservas.map (fun s ↦ { s with base := 0 }) = segmentos.map fun s ↦ { s with base := 0 } := by
  induction segmentos generalizing libres reservas resto with
  | nil =>
    obtain ⟨rfl, rfl⟩ : [] = reservas ∧ libres = resto := by simpa [reservarSegmentos] using h
    rfl
  | cons seg cola ih =>
    simp only [reservarSegmentos] at h
    split at h
    · cases h
    · obtain ⟨todo₂, reservas₂, libres₂, hrec⟩ : ∃ todo₂ reservas₂ libres₂,
          reservarSegmentos worstFit cola (bloquesAsignar worstFit libres seg.limite).2 =
            (todo₂, reservas₂, libres₂) := ⟨_, _, _, rfl⟩
      rw [hrec] at h
      obtain ⟨rfl, hreservas, -⟩ : todo₂ = true ∧ { seg with base := _ } :: reservas₂ = reservas ∧
          libres₂ = resto := by simpa using h
      rw [← hreservas, List.map_cons, List.map_cons, ih hrec]

/-- The rollback gives back exactly what was taken. -/
theorem rollback_rangos {reservas : List Segmento} {libres : List BloqueLibre} (htop : top < 2 ^ 32)
    (hw : Within (rangosLibres libres) top)
    (hreservas : ∀ seg ∈ reservas, seg.Residente ∧ seg.base.toNat + seg.limite.toNat ≤ top) :
    Within (rangosLibres
        (reservas.foldl (fun libres r ↦ bloquesLiberar libres r.base r.limite) libres)) top ∧
      ∀ address, hits (rangosLibres
          (reservas.foldl (fun libres r ↦ bloquesLiberar libres r.base r.limite) libres)) address =
        hits (rangosSegmentos reservas) address + hits (rangosLibres libres) address := by
  have hfold : reservas.foldl (fun libres r ↦ bloquesLiberar libres r.base r.limite) libres =
      liberarSegmentos reservas libres := by
    refine List.foldl_ext _ _ _ fun libres' r hr ↦ ?_
    rw [if_pos (hreservas r hr).1]
  rw [hfold]
  obtain ⟨hw', hhits⟩ := liberarSegmentos_rangos htop hw
    (within_rangosSegmentos fun seg hseg _ ↦ (hreservas seg hseg).2)
  exact ⟨hw', fun address ↦ by rw [hhits address, Nat.add_comm]⟩

/-- `reservar_segmentos_con_rollback`: all segments placed, or the same free bytes as before. -/
theorem reservarSegmentosConRollback_cases {worstFit : Bool} {segmentos : List Segmento}
    {libres resto : List BloqueLibre} {reservas : Option (List Segmento)} (htop : top < 2 ^ 32)
    (hw : Within (rangosLibres libres) top)
    (h : reservarSegmentosConRollback worstFit segmentos libres = (reservas, resto)) :
    Within (rangosLibres resto) top ∧
      ((reservas = none ∧
          ∀ address, hits (rangosLibres resto) address = hits (rangosLibres libres) address) ∨
        ∃ segmentos', reservas = some segmentos' ∧
          reservarSegmentos worstFit segmentos libres = (true, segmentos', resto) ∧
          (∀ seg ∈ segmentos', seg.Residente ∧ seg.base.toNat + seg.limite.toNat ≤ top) ∧
          ∀ address, hits (rangosLibres libres) address =
            hits (rangosSegmentos segmentos') address + hits (rangosLibres resto) address) := by
  obtain ⟨todo, segmentos', libres₁, hreservar⟩ : ∃ todo segmentos' libres₁,
      reservarSegmentos worstFit segmentos libres = (todo, segmentos', libres₁) := ⟨_, _, _, rfl⟩
  obtain ⟨hw₁, hsegs, hhits⟩ := reservarSegmentos_rangos htop hw hreservar
  rw [reservarSegmentosConRollback, hreservar] at h
  cases todo with
  | true =>
    obtain ⟨rfl, rfl⟩ := Prod.mk.inj h
    exact ⟨hw₁, Or.inr ⟨segmentos', rfl, hreservar, hsegs, hhits⟩⟩
  | false =>
    obtain ⟨rfl, rfl⟩ := Prod.mk.inj h
    obtain ⟨hw₂, hhits₂⟩ := rollback_rangos htop hw₁ hsegs
    exact ⟨hw₂, Or.inl ⟨rfl, fun address ↦ by rw [hhits₂ address, hhits address]⟩⟩

end Rangos

end PlugAndPlay.Memoria
