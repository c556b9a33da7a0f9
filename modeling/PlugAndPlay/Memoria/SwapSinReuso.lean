import PlugAndPlay.Library.Transitions
import PlugAndPlay.Memoria.SwapArchivo

/-!
# The blocks of the swap file over whole runs

`swap_reservar_bloques` has a counter and nothing else: blocks that a resumption or the end of a process
gives up are never handed out again. Until blocks are given up, all blocks below the counter are in use, and
a suspension that finds no blocks is right.
-/

open PlugAndPlay.Library

namespace PlugAndPlay.Memoria

/-! ## Blocks in use -/

/-- The block holds bytes of a segment that is in the swap file. -/
def Segmento.OcupaBloque (bs : UInt32) (seg : Segmento) (b : ℕ) : Prop :=
  ¬ seg.Residente ∧ seg.swapBloqueInicio.toNat ≤ b ∧
    b < seg.swapBloqueInicio.toNat + (cantidadBloques seg.limite bs).toNat

instance (bs : UInt32) (seg : Segmento) (b : ℕ) : Decidable (seg.OcupaBloque bs b) :=
  inferInstanceAs (Decidable (_ ∧ _))

def BloqueOcupado (procesos : List Proceso) (bs : UInt32) (b : ℕ) : Prop :=
  ∃ p ∈ procesos, ∃ seg ∈ p.segmentos, seg.OcupaBloque bs b

instance (procesos : List Proceso) (bs : UInt32) (b : ℕ) : Decidable (BloqueOcupado procesos bs b) :=
  inferInstanceAs (Decidable (∃ _ ∈ _, ∃ _ ∈ _, _))

/-- The blocks that the reservation asked for which ended `manejar_suspender_proceso`. -/
def reservaFallida : List Segmento → KernelMemory → Option UInt32
  | [], _ => none
  | seg :: resto, m =>
    let nBlocks := cantidadBloques seg.limite m.swap.blockSize
    let (bloqueInicio, swap) := swapReservarBloques m.swap nBlocks
    if bloqueInicio = sinBase then some nBlocks
    else
      let seg := { seg with swapBloqueInicio := bloqueInicio }
      match volcarSegmentoASwap seg { m with swap := swap } with
      | (false, _) => none
      | (true, m) =>
        let libres := bloquesLiberar m.bloquesLibres seg.base seg.limite
        reservaFallida resto { m with bloquesLibres := libres }

/-- The suspension of the process reports lack of swap, although so many contiguous blocks as it asked
for belong to no suspended segment. -/
def ReporteIndebido (m : KernelMemory) (pid : ℤ) : Prop :=
  ∃ proc nBlocks, procesosBuscar m.procesos pid = some proc ∧ 0 ≤ m.swap.socket ∧
    reservaFallida proc.segmentos m = some nBlocks ∧
    ∃ start, start + nBlocks.toNat ≤ m.swap.totalBlocks.toNat ∧ ∀ b, start ≤ b →
      b < start + nBlocks.toNat →
        ¬ BloqueOcupado (suspenderProceso m pid).2.procesos m.swap.blockSize b

/-! ## One suspension -/

/-- No stick serves the address that stands for none. -/
theorem conexionesBuscarStickPorDir_sinBase (tabla : List MemoryStick) :
    conexionesBuscarStickPorDir tabla sinBase = none := by
  apply List.findIdx?_eq_none_iff.mpr
  intro stick _
  rw [decide_eq_false_iff_not]
  intro hsirve
  have hlt := UInt32.lt_iff_toNat_lt.mp hsirve.2.2
  have hmax := (stick.baseFisica + stick.tamanio).toNat_lt
  rw [toNat_sinBase] at hlt
  omega

theorem memoryIoLeer_sinBase (ram : Ram) {tamanio : UInt32} (htamanio : tamanio ≠ 0) :
    memoryIoLeer ram sinBase tamanio = (.error .sinStick, ram) := by
  have hpos : tamanio.toNat ≠ 0 := fun hcero ↦ htamanio (UInt32.toNat_inj.mp hcero)
  obtain ⟨pasos, hpasos⟩ := Nat.exists_eq_succ_of_ne_zero hpos
  unfold memoryIoLeer
  rw [hpasos, leerTramos, if_neg htamanio, conexionesBuscarStickPorDir_sinBase]

/-- A segment that is already in the swap file cannot be copied there again, unless it has no blocks. -/
theorem volcarSegmentoASwap_swapeado {seg : Segmento} {m : KernelMemory} (hbase : seg.base = sinBase)
    (hbs : m.swap.blockSize ≠ 0) (hbloques : cantidadBloques seg.limite m.swap.blockSize ≠ 0) :
    (volcarSegmentoASwap seg m).1 = false := by
  have hpos : (cantidadBloques seg.limite m.swap.blockSize).toNat ≠ 0 :=
    fun hcero ↦ hbloques (UInt32.toNat_inj.mp hcero)
  obtain ⟨restantes, hrestantes⟩ := Nat.exists_eq_succ_of_ne_zero hpos
  have hchunk : chunkDeBloque seg.limite m.swap.blockSize 0 ≠ 0 := by
    unfold chunkDeBloque
    split
    · intro hcero
      rw [UInt32.zero_mul, UInt32.sub_zero] at hcero
      apply hbloques
      have hbsPos : 0 < m.swap.blockSize.toNat :=
        Nat.pos_of_ne_zero fun h ↦ hbs (UInt32.toNat_inj.mp h)
      rw [← UInt32.toNat_inj, hcero]
      by_contra hno
      have hmenor := (lt_cantidadBloques hbsPos (sinDesborde_cero _) (b := 0)).mp
        (Nat.pos_of_ne_zero hno)
      rw [UInt32.toNat_zero] at hmenor
      omega
    · exact hbs
  have hdir : seg.base + 0 * m.swap.blockSize = sinBase := by
    rw [UInt32.zero_mul, UInt32.add_zero, hbase]
  unfold volcarSegmentoASwap
  rw [hrestantes]
  simp only [volcarBloques, hdir, memoryIoLeer_sinBase m.ram hchunk]

/-- What a suspension without failed transfers does to the blocks: those the counter moved past belong to
the segments it swapped, and no segment loses its own. -/
structure BloquesTras (segmentos segmentos' : List Segmento) (m m' : KernelMemory) : Prop where
  procesos : m'.procesos = m.procesos
  nuevos : ∀ b, b < m'.swap.nextBlock.toNat → b < m.swap.nextBlock.toNat ∨
    ∃ seg ∈ segmentos', seg.OcupaBloque m.swap.blockSize b
  viejos : ∀ b, (∃ seg ∈ segmentos, seg.OcupaBloque m.swap.blockSize b) →
    ∃ seg ∈ segmentos', seg.OcupaBloque m.swap.blockSize b

theorem BloquesTras.refl (segmentos : List Segmento) (m : KernelMemory) :
    BloquesTras segmentos segmentos m m :=
  ⟨rfl, fun _ h ↦ Or.inl h, fun _ h ↦ h⟩

/-- The first segment goes to the blocks the counter moves past, the others follow. -/
theorem BloquesTras.cons {seg : Segmento} {resto resto' : List Segmento} {m m₁ m' : KernelMemory}
    {inicio : UInt32} {swap : Swap} (hbs : m.swap.blockSize ≠ 0)
    (hreserva : swapReservarBloques m.swap (cantidadBloques seg.limite m.swap.blockSize) = (inicio, swap))
    (hinicio : inicio ≠ sinBase)
    (hvolcar : volcarSegmentoASwap { seg with swapBloqueInicio := inicio } { m with swap := swap } =
      (true, m₁)) (hresto : BloquesTras resto resto' m₁ m') :
    BloquesTras (seg :: resto)
      ({ seg with base := sinBase, swapBloqueInicio := inicio } :: resto') m m' := by
  obtain ⟨hcrece, hnext⟩ := volcarSegmentoASwap_crece { seg with swapBloqueInicio := inicio }
    hreserva hinicio hvolcar
  obtain ⟨rfl, hswap⟩ := swapReservarBloques_eq hreserva hinicio
  have hdisp := volcarBloques_soloDispositivos { seg with swapBloqueInicio := m.swap.nextBlock }
    (cantidadBloques seg.limite swap.blockSize).toNat 0 { m with swap := swap }
  rw [show volcarBloques _ _ _ _ = _ from hvolcar] at hdisp
  have hblockSize : m₁.swap.blockSize = m.swap.blockSize := hcrece.blockSize
  have hno : ¬ ({ seg with base := sinBase, swapBloqueInicio := m.swap.nextBlock } : Segmento).Residente :=
    fun hres ↦ hres rfl
  refine ⟨hresto.procesos.trans hdisp.procesos, fun b hb ↦ ?_, fun b hb ↦ ?_⟩
  · have hcasos := hresto.nuevos b hb
    rw [hblockSize] at hcasos
    rcases hcasos with hmenor | ⟨otro, hotro, hocupa⟩
    · rcases Nat.lt_or_ge b m.swap.nextBlock.toNat with hviejo | hnuevo
      · exact Or.inl hviejo
      · refine Or.inr ⟨_, List.mem_cons_self, hno, hnuevo, ?_⟩
        rw [hnext] at hmenor
        exact hmenor
    · exact Or.inr ⟨otro, List.mem_cons_of_mem _ hotro, hocupa⟩
  · obtain ⟨otro, hotro, hocupa⟩ := hb
    rcases List.mem_cons.mp hotro with rfl | hotro
    · -- a segment that was in the file already has no blocks, or its copy would have failed
      exfalso
      have hbase : otro.base = sinBase := by
        by_contra hbase
        exact hocupa.1 hbase
      have hbloques : cantidadBloques otro.limite m.swap.blockSize ≠ 0 := by
        intro hcero
        have hmenor := hocupa.2.2
        rw [hcero, UInt32.toNat_zero] at hmenor
        have := hocupa.2.1
        omega
      have hbsSwap : swap.blockSize = m.swap.blockSize := by rw [hswap]
      have hfalla : (volcarSegmentoASwap { otro with swapBloqueInicio := m.swap.nextBlock }
          { m with swap := swap }).1 = false :=
        volcarSegmentoASwap_swapeado hbase (by rw [hbsSwap]; exact hbs) (by rw [hbsSwap]; exact hbloques)
      rw [hvolcar] at hfalla
      cases hfalla
    · have hcola := hresto.viejos b
      rw [hblockSize] at hcola
      obtain ⟨final, hfinal, hocupaFinal⟩ := hcola ⟨otro, hotro, hocupa⟩
      exact ⟨final, List.mem_cons_of_mem _ hfinal, hocupaFinal⟩

theorem suspenderSegmentos_bloques {segmentos segmentos' : List Segmento} {m m' : KernelMemory}
    {fin : FinSuspension} (h : suspenderSegmentos segmentos m = (fin, segmentos', m'))
    (hfin : fin ≠ .fallo) (hbs : m.swap.blockSize ≠ 0) : BloquesTras segmentos segmentos' m m' := by
  induction segmentos generalizing m fin segmentos' m' with
  | nil =>
    obtain ⟨rfl, rfl⟩ := Prod.mk.inj (Prod.mk.inj h).2
    exact BloquesTras.refl _ _
  | cons seg resto ih =>
    rcases suspenderSegmentos_cons_cases h with
      ⟨_, rfl, rfl⟩ | ⟨inicio, swap, hreserva, hinicio, ⟨rfl, _, _⟩ | ⟨m₁, resto', hvolcar, hrec, rfl⟩⟩
    · exact BloquesTras.refl _ _
    · exact absurd rfl hfin
    · have hcrece := (volcarSegmentoASwap_crece { seg with swapBloqueInicio := inicio }
        hreserva hinicio hvolcar).1
      have hbs₁ : m₁.swap.blockSize ≠ 0 := by
        rw [hcrece.blockSize]
        exact hbs
      have hcola := ih hrec hfin hbs₁
      have hresto : BloquesTras resto resto' m₁ m' :=
        ⟨hcola.procesos, hcola.nuevos, hcola.viejos⟩
      exact hresto.cons hbs hreserva hinicio hvolcar

/-- The failed reservation fails in the state the suspension leaves. -/
theorem reservaFallida_eq_some {segmentos segmentos' : List Segmento} {m m' : KernelMemory}
    {fin : FinSuspension} {nBlocks : UInt32} (h : suspenderSegmentos segmentos m = (fin, segmentos', m'))
    (hfalta : reservaFallida segmentos m = some nBlocks) :
    fin = .sinBloques ∧ (swapReservarBloques m'.swap nBlocks).1 = sinBase := by
  induction segmentos generalizing m fin segmentos' m' with
  | nil => cases hfalta
  | cons seg resto ih =>
    obtain ⟨inicio, swap, hreserva⟩ : ∃ b swap, swapReservarBloques m.swap
      (cantidadBloques seg.limite m.swap.blockSize) = (b, swap) := ⟨_, _, rfl⟩
    simp only [suspenderSegmentos, hreserva] at h
    simp only [reservaFallida, hreserva] at hfalta
    by_cases hinicio : inicio = sinBase
    · rw [if_pos hinicio] at h hfalta
      obtain rfl := Option.some.inj hfalta
      obtain ⟨rfl, hresto⟩ := Prod.mk.inj h
      obtain ⟨_, rfl⟩ := Prod.mk.inj hresto
      rw [hreserva]
      exact ⟨rfl, hinicio⟩
    · rw [if_neg hinicio] at h hfalta
      rcases hvolcar : volcarSegmentoASwap { seg with swapBloqueInicio := inicio }
        { m with swap := swap } with ⟨copiado, m₁⟩
      rw [hvolcar] at h hfalta
      cases copiado with
      | false => cases hfalta
      | true =>
        obtain ⟨hfin, hresto⟩ := Prod.mk.inj h
        obtain ⟨_, hm⟩ := Prod.mk.inj hresto
        exact ih (Prod.ext hfin (Prod.ext rfl hm)) hfalta

/-- The blocks that a suspension of these segments reserves. -/
def bloquesPedidos (segmentos : List Segmento) (bs : UInt32) : ℕ :=
  (segmentos.map fun seg ↦ (cantidadBloques seg.limite bs).toNat).sum

theorem swapReservarBloques_cabe {swap : Swap} (nBlocks : UInt32) (htotal : swap.totalBlocks ≠ sinBase)
    (h : swap.nextBlock.toNat + nBlocks.toNat ≤ swap.totalBlocks.toNat) :
    swapReservarBloques swap nBlocks =
        (swap.nextBlock, { swap with nextBlock := swap.nextBlock + nBlocks }) ∧
      swap.nextBlock ≠ sinBase := by
  have hmax := swap.totalBlocks.toNat_lt
  have hno : ¬ swap.nextBlock + nBlocks > swap.totalBlocks := by
    apply UInt32.not_lt.mpr
    rw [UInt32.le_iff_toNat_le, toNat_add_of_lt (by omega)]
    exact h
  refine ⟨if_neg hno, fun hsin ↦ htotal ?_⟩
  rw [← UInt32.toNat_inj, toNat_sinBase]
  rw [hsin, toNat_sinBase] at h
  omega

/-- What fits above the counter is not refused. -/
theorem reservaFallida_of_cabe {segmentos : List Segmento} {m : KernelMemory}
    (htotal : m.swap.totalBlocks ≠ sinBase)
    (h : m.swap.nextBlock.toNat + bloquesPedidos segmentos m.swap.blockSize ≤
      m.swap.totalBlocks.toNat) : reservaFallida segmentos m = none := by
  induction segmentos generalizing m with
  | nil => rfl
  | cons seg resto ih =>
    have hsuma : bloquesPedidos (seg :: resto) m.swap.blockSize =
        (cantidadBloques seg.limite m.swap.blockSize).toNat +
          bloquesPedidos resto m.swap.blockSize := by
      simp [bloquesPedidos]
    obtain ⟨hreserva, hinicio⟩ := swapReservarBloques_cabe
      (cantidadBloques seg.limite m.swap.blockSize) htotal (by omega)
    simp only [reservaFallida, hreserva, if_neg hinicio]
    have hdisp := volcarBloques_soloDispositivos { seg with swapBloqueInicio := m.swap.nextBlock }
      (cantidadBloques seg.limite m.swap.blockSize).toNat 0 { m with swap :=
        { m.swap with nextBlock := m.swap.nextBlock + cantidadBloques seg.limite m.swap.blockSize } }
    split
    · rfl
    · rename_i m₁ hvolcar
      rw [show volcarBloques _ _ _ _ = _ from hvolcar] at hdisp
      have hfijo := hdisp.swap
      simp only [Swap.fijo, Prod.mk.injEq] at hfijo
      obtain ⟨_, hbs, hnext, htotalMismo, _⟩ := hfijo
      have hmax := m.swap.totalBlocks.toNat_lt
      have hsuma₁ : m₁.swap.nextBlock.toNat = m.swap.nextBlock.toNat +
          (cantidadBloques seg.limite m.swap.blockSize).toNat := by
        rw [hnext]
        exact toNat_add_of_lt (by omega)
      apply ih
      · simp only [htotalMismo]
        exact htotal
      · simp only [htotalMismo, hbs, hsuma₁]
        omega

/-! ## The table of processes -/

section Tabla

variable {procesos : List Proceso} {pid : ℤ} {p : Proceso} {bs : UInt32} {b : ℕ}

/-- A process whose segments keep their blocks takes none from the others. -/
theorem BloqueOcupado.modificar {segmentos : List Segmento} (hp : procesosBuscar procesos pid = some p)
    (h : (∃ seg ∈ p.segmentos, seg.OcupaBloque bs b) → ∃ seg ∈ segmentos, seg.OcupaBloque bs b)
    (hb : BloqueOcupado procesos bs b) :
    BloqueOcupado (procesosModificar pid (fun p ↦ { p with segmentos := segmentos }) procesos) bs b := by
  obtain ⟨antes, despues, rfl, _, _, hmod, _⟩ := procesosBuscar_split hp
  rw [hmod]
  obtain ⟨q, hq, hocupa⟩ := hb
  rcases List.mem_append.mp hq with hq | hq
  · exact ⟨q, List.mem_append_left _ hq, hocupa⟩
  · rcases List.mem_cons.mp hq with rfl | hq
    · exact ⟨_, List.mem_append_right _ List.mem_cons_self, h hocupa⟩
    · exact ⟨q, List.mem_append_right _ (List.mem_cons_of_mem _ hq), hocupa⟩

theorem bloqueOcupado_modificar {segmentos : List Segmento} (hp : procesosBuscar procesos pid = some p)
    (h : ∃ seg ∈ segmentos, seg.OcupaBloque bs b) :
    BloqueOcupado (procesosModificar pid (fun p ↦ { p with segmentos := segmentos }) procesos) bs b := by
  obtain ⟨antes, despues, rfl, _, _, hmod, _⟩ := procesosBuscar_split hp
  rw [hmod]
  exact ⟨_, List.mem_append_right _ List.mem_cons_self, h⟩

/-- Removing a process without blocks frees none. -/
theorem BloqueOcupado.quitar (hp : procesosBuscar procesos pid = some p)
    (h : ¬ ∃ seg ∈ p.segmentos, seg.OcupaBloque bs b) (hb : BloqueOcupado procesos bs b) :
    BloqueOcupado (procesosQuitar pid procesos) bs b := by
  obtain ⟨antes, despues, rfl, _, _, _, hquitar⟩ := procesosBuscar_split hp
  rw [hquitar]
  obtain ⟨q, hq, hocupa⟩ := hb
  rcases List.mem_append.mp hq with hq | hq
  · exact ⟨q, List.mem_append_left _ hq, hocupa⟩
  · rcases List.mem_cons.mp hq with rfl | hq
    · exact absurd hocupa h
    · exact ⟨q, List.mem_append_right _ hq, hocupa⟩

end Tabla

/-! ## Runs -/

/-- The requests of the scheduler that touch the swap file. -/
inductive PedidoSwap
  | suspender (pid : ℤ)
  | desSuspender (pid : ℤ)
  | finalizar (pid : ℤ)
deriving Repr, DecidableEq

/-- Kernel Memory, and whether blocks have been given up so far. -/
structure CorridaSwap where
  memoria : KernelMemory
  soltado : Bool

/-- The process has a segment with blocks in the swap file. -/
def EnSwap (m : KernelMemory) (pid : ℤ) : Prop :=
  ∃ seg ∈ (tablaDe m.procesos pid).getD [],
    ¬ seg.Residente ∧ 0 < (cantidadBloques seg.limite m.swap.blockSize).toNat

instance (m : KernelMemory) (pid : ℤ) : Decidable (EnSwap m pid) :=
  inferInstanceAs (Decidable (∃ _ ∈ _, _))

/-- The request gives up blocks: a suspension breaks off in a transfer, or a process with blocks is resumed
or ends. -/
def Suelta (m : KernelMemory) : PedidoSwap → Prop
  | .suspender pid => (suspenderProceso m pid).1 = .fallo
  | .desSuspender pid => EnSwap m pid ∧
      ((desSuspenderProceso m pid).1 = .completa ∨ (desSuspenderProceso m pid).1 = .fallo)
  | .finalizar pid => EnSwap m pid

instance (m : KernelMemory) : (pedido : PedidoSwap) → Decidable (Suelta m pedido)
  | .suspender _ => inferInstanceAs (Decidable (_ = _))
  | .desSuspender _ => inferInstanceAs (Decidable (_ ∧ (_ ∨ _)))
  | .finalizar pid => inferInstanceAs (Decidable (EnSwap m pid))

def atenderSwap (m : KernelMemory) : PedidoSwap → KernelMemory
  | .suspender pid => (manejarSuspenderProceso m pid).2
  | .desSuspender pid => (manejarDesSuspenderProceso m pid).2
  | .finalizar pid => (manejarFinalizarProceso m pid).2

def CorridaSwap.paso (s : CorridaSwap) (pedido : PedidoSwap) : Option CorridaSwap :=
  some ⟨atenderSwap s.memoria pedido, s.soltado || decide (Suelta s.memoria pedido)⟩

/-- Any Kernel Memory to which a swap process has just connected. -/
def CorridaSwap.Inicial (s : CorridaSwap) : Prop :=
  (∃ nuevo, s.memoria.swap = registrarSwap nuevo) ∧ s.soltado = false

/-- The blocks of the process fit above the counter, or no block has been given up so far. In a swap of
`2 ^ 32 - 1` blocks one of them would have the number that stands for none. -/
def CorridaSwap.Permite (s : CorridaSwap) : PedidoSwap → Prop
  | .suspender pid => s.memoria.swap.totalBlocks ≠ sinBase ∧ (s.soltado = false ∨
      s.memoria.swap.nextBlock.toNat + bloquesPedidos ((tablaDe s.memoria.procesos pid).getD [])
        s.memoria.swap.blockSize ≤ s.memoria.swap.totalBlocks.toNat)
  | _ => True

instance (s : CorridaSwap) : (pedido : PedidoSwap) → Decidable (s.Permite pedido)
  | .suspender _ => inferInstanceAs (Decidable (_ ∧ (_ ∨ _)))
  | .desSuspender _ | .finalizar _ => inferInstanceAs (Decidable True)

/-- The counter is within the swap, and as long as no block was given up all blocks below it are in use. -/
structure CorridaSwap.Invariante (s : CorridaSwap) : Prop where
  blockSize : s.memoria.swap.blockSize ≠ 0
  tope : s.memoria.swap.nextBlock ≤ s.memoria.swap.totalBlocks
  llenos : s.soltado = false → ∀ b, b < s.memoria.swap.nextBlock.toNat →
    BloqueOcupado s.memoria.procesos s.memoria.swap.blockSize b

theorem CorridaSwap.Inicial.invariante {s : CorridaSwap} (h : s.Inicial) : s.Invariante := by
  obtain ⟨⟨nuevo, hswap⟩, _⟩ := h
  refine ⟨?_, ?_, fun _ b hb ↦ ?_⟩
  · rw [hswap]
    intro hcero
    have hpos := UInt32.lt_iff_toNat_lt.mp nuevo.configurado.1
    rw [show nuevo.blockSize = 0 from hcero] at hpos
    exact absurd hpos (lt_irrefl _)
  · rw [hswap, UInt32.le_iff_toNat_le]
    exact Nat.zero_le _
  · rw [hswap] at hb
    exact absurd hb (Nat.not_lt_zero b)

/-- A suspension that does not break off, from the loop to the table. -/
theorem suspenderProceso_bloques {m m' : KernelMemory} {pid : ℤ} {fin : FinSuspension}
    (h : suspenderProceso m pid = (fin, m')) (hfin : fin ≠ .fallo) (hbs : m.swap.blockSize ≠ 0) :
    ∀ b, b < m'.swap.nextBlock.toNat → (b < m.swap.nextBlock.toNat →
      BloqueOcupado m.procesos m.swap.blockSize b) → BloqueOcupado m'.procesos m.swap.blockSize b := by
  unfold suspenderProceso at h
  cases hbusca : procesosBuscar m.procesos pid with
  | none =>
    rw [hbusca] at h
    obtain ⟨_, rfl⟩ := Prod.mk.inj h
    exact fun b hb hviejo ↦ hviejo hb
  | some p =>
    rw [hbusca] at h
    by_cases hsocket : m.swap.socket < 0
    · simp only [if_pos hsocket] at h
      obtain ⟨_, rfl⟩ := Prod.mk.inj h
      exact fun b hb hviejo ↦ hviejo hb
    · simp only [if_neg hsocket] at h
      rcases hbucle : suspenderSegmentos p.segmentos m with ⟨fin', segmentos', m₁⟩
      rw [hbucle] at h
      obtain ⟨rfl, rfl⟩ := Prod.mk.inj h
      have hb := suspenderSegmentos_bloques hbucle hfin hbs
      intro b hlt hviejo
      simp only [ponerSegmentos, hb.procesos]
      rcases hb.nuevos b hlt with hmenor | hnuevo
      · exact (hviejo hmenor).modificar hbusca (hb.viejos b)
      · exact bloqueOcupado_modificar hbusca hnuevo

/-- However a suspension ends, the counter stays within the swap. -/
theorem suspenderSegmentos_marco {segmentos segmentos' : List Segmento} {m m' : KernelMemory}
    {fin : FinSuspension} (h : suspenderSegmentos segmentos m = (fin, segmentos', m'))
    (htope : m.swap.nextBlock ≤ m.swap.totalBlocks) :
    m'.swap.blockSize = m.swap.blockSize ∧ m'.swap.totalBlocks = m.swap.totalBlocks ∧
      m'.swap.nextBlock ≤ m.swap.totalBlocks := by
  induction segmentos generalizing m fin segmentos' m' with
  | nil =>
    obtain ⟨_, rfl⟩ := Prod.mk.inj (Prod.mk.inj h).2
    exact ⟨rfl, rfl, htope⟩
  | cons seg resto ih =>
    rcases suspenderSegmentos_cons_cases h with ⟨_, _, rfl⟩ | ⟨inicio, swap, hreserva, hinicio, hcaso⟩
    · exact ⟨rfl, rfl, htope⟩
    · obtain ⟨_, hswap⟩ := swapReservarBloques_eq hreserva hinicio
      have hcabe : swap.nextBlock ≤ m.swap.totalBlocks := by
        rw [hswap]
        unfold swapReservarBloques at hreserva
        split at hreserva
        · exact absurd (Prod.mk.inj hreserva).1.symm hinicio
        · exact UInt32.not_lt.mp ‹_›
      have hdisp := volcarBloques_soloDispositivos { seg with swapBloqueInicio := inicio }
        (cantidadBloques seg.limite swap.blockSize).toNat 0 { m with swap := swap }
      have hvolcado : ∀ m₁, SoloDispositivos { m with swap := swap } m₁ →
          m₁.swap.blockSize = m.swap.blockSize ∧ m₁.swap.totalBlocks = m.swap.totalBlocks ∧
            m₁.swap.nextBlock ≤ m.swap.totalBlocks := by
        intro m₁ hm₁
        have hfijo := hm₁.swap
        simp only [Swap.fijo, Prod.mk.injEq] at hfijo
        obtain ⟨_, hbs, hnext, htotal, _⟩ := hfijo
        refine ⟨by rw [hbs, hswap], by rw [htotal, hswap], ?_⟩
        rw [hnext]
        exact hcabe
      rcases hcaso with ⟨_, _, hvolcar⟩ | ⟨m₁, _, hvolcar, hrec, _⟩
      · rw [show volcarBloques _ _ _ _ = _ from hvolcar] at hdisp
        exact hvolcado m' hdisp
      · rw [show volcarBloques _ _ _ _ = _ from hvolcar] at hdisp
        obtain ⟨hbs₁, htotal₁, hnext₁⟩ := hvolcado m₁ hdisp
        obtain ⟨hbs, htotal, hnext⟩ := ih hrec (by simp only [htotal₁]; exact hnext₁)
        exact ⟨hbs.trans hbs₁, htotal.trans htotal₁, hnext.trans_eq htotal₁⟩

theorem suspenderProceso_marco {m m' : KernelMemory} {pid : ℤ} {fin : FinSuspension}
    (h : suspenderProceso m pid = (fin, m')) (htope : m.swap.nextBlock ≤ m.swap.totalBlocks) :
    m'.swap.blockSize = m.swap.blockSize ∧ m'.swap.totalBlocks = m.swap.totalBlocks ∧
      m'.swap.nextBlock ≤ m.swap.totalBlocks := by
  unfold suspenderProceso at h
  split at h
  · obtain ⟨_, rfl⟩ := Prod.mk.inj h
    exact ⟨rfl, rfl, htope⟩
  · rename_i p _
    split at h
    · obtain ⟨_, rfl⟩ := Prod.mk.inj h
      exact ⟨rfl, rfl, htope⟩
    · rcases hbucle : suspenderSegmentos p.segmentos m with ⟨fin', segmentos', m₁⟩
      rw [hbucle] at h
      obtain ⟨_, rfl⟩ := Prod.mk.inj h
      have hmarco := suspenderSegmentos_marco hbucle htope
      exact hmarco

theorem sinBloques_of_not_enSwap {m : KernelMemory} {pid : ℤ} {p : Proceso} {b : ℕ} (h : ¬ EnSwap m pid)
    (hp : procesosBuscar m.procesos pid = some p) :
    ¬ ∃ seg ∈ p.segmentos, seg.OcupaBloque m.swap.blockSize b := by
  intro ⟨seg, hseg, hno, hdesde, hhasta⟩
  apply h
  unfold EnSwap tablaDe
  rw [hp]
  exact ⟨seg, hseg, hno, by omega⟩

/-- A resumption moves no counter, and gives up no block unless the process has some. -/
theorem desSuspenderProceso_bloques {m m' : KernelMemory} {pid : ℤ} {fin : FinReanudacion}
    (h : desSuspenderProceso m pid = (fin, m')) :
    m'.swap.fijo = m.swap.fijo ∧ (¬ Suelta m (.desSuspender pid) → ∀ b,
      BloqueOcupado m.procesos m.swap.blockSize b → BloqueOcupado m'.procesos m.swap.blockSize b) := by
  have hfinal : (desSuspenderProceso m pid).1 = fin := by rw [h]
  unfold desSuspenderProceso at h
  cases hbusca : procesosBuscar m.procesos pid with
  | none =>
    rw [hbusca] at h
    obtain ⟨_, rfl⟩ := Prod.mk.inj h
    exact ⟨rfl, fun _ _ hb ↦ hb⟩
  | some p =>
    rw [hbusca] at h
    by_cases hsocket : m.swap.socket < 0
    · simp only [if_pos hsocket] at h
      obtain ⟨_, rfl⟩ := Prod.mk.inj h
      exact ⟨rfl, fun _ _ hb ↦ hb⟩
    · simp only [if_neg hsocket] at h
      split at h
      · obtain ⟨_, rfl⟩ := Prod.mk.inj h
        exact ⟨rfl, fun _ _ hb ↦ hb⟩
      · rename_i segmentos libres _
        have hdisp := transferirSwapARam_soloDispositivos segmentos
          (ponerSegmentos { m with bloquesLibres := libres } pid segmentos)
        -- the copy, whether it goes through or not, follows the new bases
        have hbien : ∀ m₁, SoloDispositivos
            (ponerSegmentos { m with bloquesLibres := libres } pid segmentos) m₁ →
            ¬ EnSwap m pid → m₁.swap.fijo = m.swap.fijo ∧ ∀ b,
              BloqueOcupado m.procesos m.swap.blockSize b →
                BloqueOcupado m₁.procesos m.swap.blockSize b := by
          intro m₁ hm₁ hno
          refine ⟨hm₁.swap, fun b hb ↦ ?_⟩
          rw [hm₁.procesos]
          exact hb.modificar hbusca fun hocupa ↦ absurd hocupa (sinBloques_of_not_enSwap hno hbusca)
        split at h
        · rename_i m₁ htransferir
          obtain ⟨rfl, rfl⟩ := Prod.mk.inj h
          rw [htransferir] at hdisp
          refine ⟨hdisp.swap, fun hsuelta ↦ (hbien _ hdisp fun hen ↦ hsuelta ⟨hen, Or.inr hfinal⟩).2⟩
        · rename_i m₁ htransferir
          obtain ⟨rfl, rfl⟩ := Prod.mk.inj h
          rw [htransferir] at hdisp
          refine ⟨hdisp.swap, fun hsuelta ↦ (hbien _ hdisp fun hen ↦ hsuelta ⟨hen, Or.inl hfinal⟩).2⟩

theorem memoria_manejarSuspenderProceso (m : KernelMemory) (pid : ℤ) :
    (manejarSuspenderProceso m pid).2 = (suspenderProceso m pid).2 := by
  unfold manejarSuspenderProceso
  split <;> simp only [*]

theorem memoria_manejarDesSuspenderProceso (m : KernelMemory) (pid : ℤ) :
    (manejarDesSuspenderProceso m pid).2 = (desSuspenderProceso m pid).2 := by
  unfold manejarDesSuspenderProceso
  split <;> simp only [*]

theorem manejarFinalizarProceso_bloques (m : KernelMemory) (pid : ℤ) :
    (manejarFinalizarProceso m pid).2.swap = m.swap ∧ (¬ EnSwap m pid → ∀ b,
      BloqueOcupado m.procesos m.swap.blockSize b →
        BloqueOcupado (manejarFinalizarProceso m pid).2.procesos m.swap.blockSize b) := by
  unfold manejarFinalizarProceso
  cases hbusca : procesosBuscar m.procesos pid with
  | none => exact ⟨rfl, fun _ _ hb ↦ hb⟩
  | some p =>
    refine ⟨rfl, fun hno b hb ↦ ?_⟩
    exact hb.quitar hbusca (sinBloques_of_not_enSwap hno hbusca)

theorem CorridaSwap.Invariante.paso {s s' : CorridaSwap} {pedido : PedidoSwap} (h : s.Invariante)
    (hpaso : s.paso pedido = some s') : s'.Invariante := by
  obtain rfl := Option.some.inj hpaso
  have hsoltado : (s.soltado || decide (Suelta s.memoria pedido)) = false →
      s.soltado = false ∧ ¬ Suelta s.memoria pedido := by
    intro hfalso
    obtain ⟨hantes, hahora⟩ := Bool.or_eq_false_iff.mp hfalso
    exact ⟨hantes, of_decide_eq_false hahora⟩
  cases pedido with
  | suspender pid =>
    rcases hfin : suspenderProceso s.memoria pid with ⟨fin, m'⟩
    have hmemoria : (manejarSuspenderProceso s.memoria pid).2 = m' := by
      rw [memoria_manejarSuspenderProceso, hfin]
    obtain ⟨hbs, htotal, htope⟩ := suspenderProceso_marco hfin h.tope
    refine ⟨?_, ?_, fun hfalso b hb ↦ ?_⟩
    · simp only [atenderSwap, hmemoria, hbs]
      exact h.blockSize
    · simp only [atenderSwap, hmemoria, htotal]
      exact htope
    · have hfallo : fin ≠ .fallo := by
        intro hfallo
        apply (hsoltado hfalso).2
        simp only [Suelta, hfin, hfallo]
      simp only [atenderSwap, hmemoria, hbs] at hb ⊢
      exact suspenderProceso_bloques hfin hfallo h.blockSize b hb (h.llenos (hsoltado hfalso).1 b)
  | desSuspender pid =>
    rcases hfin : desSuspenderProceso s.memoria pid with ⟨fin, m'⟩
    have hmemoria : (manejarDesSuspenderProceso s.memoria pid).2 = m' := by
      rw [memoria_manejarDesSuspenderProceso, hfin]
    obtain ⟨hfijo, hbloques⟩ := desSuspenderProceso_bloques hfin
    simp only [Swap.fijo, Prod.mk.injEq] at hfijo
    obtain ⟨_, hbs, hnext, htotal, _⟩ := hfijo
    refine ⟨?_, ?_, fun hfalso b hb ↦ ?_⟩
    · simp only [atenderSwap, hmemoria, hbs]
      exact h.blockSize
    · simp only [atenderSwap, hmemoria, hnext, htotal]
      exact h.tope
    · simp only [atenderSwap, hmemoria, hnext, hbs] at hb ⊢
      exact hbloques (hsoltado hfalso).2 b (h.llenos (hsoltado hfalso).1 b hb)
  | finalizar pid =>
    obtain ⟨hswap, hbloques⟩ := manejarFinalizarProceso_bloques s.memoria pid
    refine ⟨?_, ?_, fun hfalso b hb ↦ ?_⟩
    · simp only [atenderSwap, hswap]
      exact h.blockSize
    · simp only [atenderSwap, hswap]
      exact h.tope
    · simp only [atenderSwap, hswap] at hb ⊢
      exact hbloques (hsoltado hfalso).2 b (h.llenos (hsoltado hfalso).1 b hb)

/-- In the swap, the request that is refused leaves no room above the counter. -/
theorem totalBlocks_lt_of_rechazo {swap : Swap} {nBlocks : UInt32} (htotal : swap.totalBlocks ≠ sinBase)
    (h : (swapReservarBloques swap nBlocks).1 = sinBase) :
    swap.totalBlocks.toNat < swap.nextBlock.toNat + nBlocks.toNat := by
  by_contra hno
  obtain ⟨hreserva, hinicio⟩ := swapReservarBloques_cabe nBlocks htotal (Nat.le_of_not_lt hno)
  rw [hreserva] at h
  exact hinicio h

/-- In every run, a suspension whose blocks fit above the counter, or before which no blocks were given up,
reports lack of swap only where there is none. -/
theorem reporte_fundado {s : CorridaSwap}
    (h : Reachable CorridaSwap.paso CorridaSwap.Inicial CorridaSwap.Permite s) (pid : ℤ)
    (hpermite : s.Permite (.suspender pid)) : ¬ ReporteIndebido s.memoria pid := by
  have hinv : s.Invariante := h.invariant (fun _ h ↦ h.invariante) fun _ _ _ hs _ hpaso ↦ hs.paso hpaso
  intro ⟨proc, nBlocks, hbusca, hsocket, hfalta, start, hfin, hlibres⟩
  obtain ⟨htotal, hcaso⟩ := hpermite
  rcases hcaso with hsoltado | hcabe
  · rcases hbucle : suspenderSegmentos proc.segmentos s.memoria with ⟨fin, segmentos', m₁⟩
    obtain ⟨hfinal, hrechazo⟩ := reservaFallida_eq_some hbucle hfalta
    have hsuspende : suspenderProceso s.memoria pid = (fin, ponerSegmentos m₁ pid segmentos') := by
      simp only [suspenderProceso, hbusca, if_neg (Int.not_lt.mpr hsocket), hbucle]
    obtain ⟨_, htotalMismo, htope⟩ := suspenderSegmentos_marco hbucle hinv.tope
    have hnumeros : m₁.swap.totalBlocks ≠ sinBase := by rw [htotalMismo]; exact htotal
    have hmas := totalBlocks_lt_of_rechazo hnumeros hrechazo
    have hmax := UInt32.le_iff_toNat_le.mp htope
    rw [htotalMismo] at hmas
    -- every run of that length begins below the counter, where all blocks are in use
    have hocupado := suspenderProceso_bloques hsuspende (by rw [hfinal]; exact nofun) hinv.blockSize
      start (by simp only [ponerSegmentos]; omega) (hinv.llenos hsoltado start)
    rw [hsuspende] at hlibres
    exact hlibres start le_rfl (by omega) hocupado
  · have hnada : reservaFallida proc.segmentos s.memoria = none := by
      apply reservaFallida_of_cabe htotal
      simp only [tablaDe, hbusca, Option.map_some, Option.getD_some] at hcabe
      exact hcabe
    rw [hnada] at hfalta
    cases hfalta

/-! ## One block -/

/-- A process of four bytes on one stick, and a swap file of one block, which has room for it. -/
def memoriaUnBloque : KernelMemory where
  config := ⟨16, none⟩
  procesos := [⟨1, .cero, [⟨0, 0, 4, 0⟩], []⟩]
  bloquesLibres := [⟨4, 4⟩]
  ram := ⟨[⟨1, 8, "", "", 0, 3, fun _ ↦ 7⟩], [], 0⟩
  swap := registrarSwap ⟨4, 4, 4, fun _ ↦ 0, [], configurado_un_bloque⟩

theorem inicial_memoriaUnBloque : CorridaSwap.Inicial ⟨memoriaUnBloque, false⟩ := ⟨⟨_, rfl⟩, rfl⟩

/-- With the process in the block, another suspension of it asks for a second block, and there is none. -/
theorem reporte_fundado_un_bloque : ∃ s : CorridaSwap, s.memoria.swap.nextBlock = 1 ∧
    ¬ ReporteIndebido s.memoria 1 := by
  have hinicial : Reachable CorridaSwap.paso CorridaSwap.Inicial CorridaSwap.Permite
      ⟨memoriaUnBloque, false⟩ := .start inicial_memoriaUnBloque
  obtain ⟨s, hs, hnext, hpermite⟩ := hinicial.exists_of_runAllowed [.suspender 1]
    (fun s ↦ s.memoria.swap.nextBlock = 1 ∧ s.Permite (.suspender 1)) (by decide)
  exact ⟨s, hnext, reporte_fundado hs 1 hpermite⟩

/-- Suspended, resumed and suspended again, the process finds no block, although none is in use. The reply
is that of a suspension. -/
theorem swap_agotado_vacio : ∃ s : CorridaSwap,
    Reachable CorridaSwap.paso CorridaSwap.Inicial (fun _ _ ↦ True) s ∧ ReporteIndebido s.memoria 1 ∧
      (manejarSuspenderProceso s.memoria 1).1 = [.ok .suspenderProceso] ∧
      ∀ b, ¬ BloqueOcupado s.memoria.procesos s.memoria.swap.blockSize b := by
  have hinicial : Reachable CorridaSwap.paso CorridaSwap.Inicial (fun _ _ ↦ True)
      ⟨memoriaUnBloque, false⟩ := .start inicial_memoriaUnBloque
  obtain ⟨s, hs, hprocesos, htras, hsocket, hfalta, htotal, hmensajes⟩ := hinicial.exists_of_runAllowed
    [.suspender 1, .desSuspender 1]
    (fun s ↦ s.memoria.procesos = memoriaUnBloque.procesos ∧
      (suspenderProceso s.memoria 1).2.procesos = memoriaUnBloque.procesos ∧ 0 ≤ s.memoria.swap.socket ∧
      reservaFallida [⟨0, 0, 4, 0⟩] s.memoria = some 1 ∧ s.memoria.swap.totalBlocks = 1 ∧
      (manejarSuspenderProceso s.memoria 1).1 = [.ok .suspenderProceso]) (by decide)
  have hlibre : ∀ b, ¬ BloqueOcupado memoriaUnBloque.procesos s.memoria.swap.blockSize b := by
    intro b ⟨proc, hproc, seg, hseg, hocupa⟩
    obtain rfl := List.mem_singleton.mp hproc
    obtain rfl := List.mem_singleton.mp hseg
    exact hocupa.1 (by decide)
  refine ⟨s, hs, ⟨⟨1, .cero, [⟨0, 0, 4, 0⟩], []⟩, 1, ?_, hsocket, hfalta, 0, ?_, fun b _ _ ↦ ?_⟩, hmensajes, ?_⟩
  · rw [hprocesos]
    rfl
  · rw [htotal]
    exact le_rfl
  · rw [htras]
    exact hlibre b
  · rw [hprocesos]
    exact hlibre

end PlugAndPlay.Memoria
