import PlugAndPlay.Memoria.Conexiones

/-!
# Transfers across sticks

`memory_io.c`: a transfer is cut at stick boundaries and each piece is one request to a stick. A
request can fail because no stick serves the address, because the connection breaks, or because the
stick sends too few bytes. Which of the coming requests break is part of the state, so that every
pattern of failures is a run of the model. Without failures, reading and writing across sticks is
reading and writing one flat memory. That the two sides can take each other's messages is assumed here;
`RamEnRed` has these loops with the messages, and does the same where they arrive.
-/

open PlugAndPlay.Library

namespace PlugAndPlay.Memoria

/-! ## The code -/

/-- The sticks as Kernel Memory reaches them. `cortes` tells of the coming requests, one by one,
whether the connection breaks; past its end none does. `avisosBsod` counts the reports
`MEMORIA_CORRUPTA_BSOD` sent to the scheduler. -/
structure Ram where
  tabla : List MemoryStick
  cortes : List Bool
  avisosBsod : ℕ

/-- Why a transfer failed; the last two are reported to the scheduler. -/
inductive FalloIo
  | sinStick
  | desconectado
  | incompleta
deriving Repr, DecidableEq

/-- The next request: whether its connection breaks. -/
def Ram.siguienteCorte (ram : Ram) : Bool × Ram :=
  match ram.cortes with
  | [] => (false, ram)
  | corte :: resto => (corte, { ram with cortes := resto })

/-- `enviar_memoria_corrupta`. -/
def Ram.avisar (ram : Ram) : Ram := { ram with avisosBsod := ram.avisosBsod + 1 }

/-- The loop of `memory_io_leer`, one piece after the other; every piece has at least one byte, so
`pasos` is at most the number of bytes asked for. -/
def leerTramos : ℕ → Ram → UInt32 → UInt32 → Except FalloIo (List UInt8) × Ram
  | 0, ram, _, _ => (.ok [], ram)
  | pasos + 1, ram, dirAct, restante =>
    if restante = 0 then (.ok [], ram)
    else
      match conexionesBuscarStickPorDir ram.tabla dirAct with
      | none => (.error .sinStick, ram)
      | some idx =>
        match ram.tabla[idx]? with
        | none => (.error .sinStick, ram)
        | some stick =>
          let localOffset := dirAct - stick.baseFisica
          let hastaElFin := stick.tamanio - localOffset
          let chunk := if hastaElFin > restante then restante else hastaElFin
          match ram.siguienteCorte with
          | (true, ram) => (.error .desconectado, ram.avisar)
          | (false, ram) =>
            match stick.manejarLectura localOffset chunk with
            | none => (.error .incompleta, ram.avisar)
            | some datos =>
              match leerTramos pasos ram (dirAct + chunk) (restante - chunk) with
              | (.ok resto, ram) => (.ok (datos ++ resto), ram)
              | (.error fallo, ram) => (.error fallo, ram)

/-- `memory_io_leer`: `tamanio` bytes from a physical address, or why there are none. -/
def memoryIoLeer (ram : Ram) (dirFisica tamanio : UInt32) : Except FalloIo (List UInt8) × Ram :=
  leerTramos tamanio.toNat ram dirFisica tamanio

/-- The request `ESCRITURA_MEMORIA` to one stick. -/
def Ram.pedirEscritura (ram : Ram) (idx : ℕ) (localOffset chunk : UInt32) (datos : List UInt8) :
    Ram :=
  let tabla := ram.tabla.modify idx fun stick ↦ stick.manejarEscritura localOffset chunk datos
  { ram with tabla := tabla }

/-- The loop of `memory_io_escribir`; pieces written before a failure stay written. -/
def escribirTramos : ℕ → Ram → UInt32 → UInt32 → List UInt8 → Except FalloIo Unit × Ram
  | 0, ram, _, _, _ => (.ok (), ram)
  | pasos + 1, ram, dirAct, restante, datos =>
    if restante = 0 then (.ok (), ram)
    else
      match conexionesBuscarStickPorDir ram.tabla dirAct with
      | none => (.error .sinStick, ram)
      | some idx =>
        match ram.tabla[idx]? with
        | none => (.error .sinStick, ram)
        | some stick =>
          let localOffset := dirAct - stick.baseFisica
          let hastaElFin := stick.tamanio - localOffset
          let chunk := if hastaElFin > restante then restante else hastaElFin
          match ram.siguienteCorte with
          | (true, ram) => (.error .desconectado, ram.avisar)
          | (false, ram) =>
            escribirTramos pasos (ram.pedirEscritura idx localOffset chunk datos) (dirAct + chunk)
              (restante - chunk) (datos.drop chunk.toNat)

/-- `memory_io_escribir`: the first `tamanio` bytes of `datos` to a physical address. -/
def memoryIoEscribir (ram : Ram) (dirFisica tamanio : UInt32) (datos : List UInt8) :
    Except FalloIo Unit × Ram :=
  escribirTramos tamanio.toNat ram dirFisica tamanio datos

/-! ## Whatever fails -/

theorem Ram.tabla_siguienteCorte (ram : Ram) : ram.siguienteCorte.2.tabla = ram.tabla := by
  unfold siguienteCorte
  split <;> rfl

/-- Reading does not change a stick. -/
theorem tabla_leerTramos (pasos : ℕ) (ram : Ram) (dirAct restante : UInt32) :
    (leerTramos pasos ram dirAct restante).2.tabla = ram.tabla := by
  induction pasos generalizing ram dirAct restante with
  | zero => rfl
  | succ pasos ih =>
    have hcorte := ram.tabla_siguienteCorte
    simp only [leerTramos]
    split
    · rfl
    split
    · rfl
    split
    · rfl
    split
    · rename_i hpedido
      rw [hpedido] at hcorte
      exact hcorte
    · rename_i hpedido
      rw [hpedido] at hcorte
      split
      · exact hcorte
      · split
        · rename_i hresto
          have htabla := congrArg (fun r ↦ r.2.tabla) hresto
          simp only [ih] at htabla
          exact htabla.symm.trans hcorte
        · rename_i hresto
          have htabla := congrArg (fun r ↦ r.2.tabla) hresto
          simp only [ih] at htabla
          exact htabla.symm.trans hcorte

theorem tabla_memoryIoLeer (ram : Ram) (dirFisica tamanio : UInt32) :
    (memoryIoLeer ram dirFisica tamanio).2.tabla = ram.tabla :=
  tabla_leerTramos _ _ _ _

/-- Writing changes buffers only. -/
theorem mismaTabla_escribirTramos (pasos : ℕ) (ram : Ram) (dirAct restante : UInt32)
    (datos : List UInt8) :
    MismaTabla (escribirTramos pasos ram dirAct restante datos).2.tabla ram.tabla := by
  induction pasos generalizing ram dirAct restante datos with
  | zero => exact MismaTabla.refl _
  | succ pasos ih =>
    have hcorte := ram.tabla_siguienteCorte
    simp only [escribirTramos]
    split
    · exact MismaTabla.refl _
    split
    · exact MismaTabla.refl _
    split
    · exact MismaTabla.refl _
    split
    · rename_i hpedido
      rw [hpedido] at hcorte
      rw [← hcorte]
      exact MismaTabla.refl _
    · rename_i hpedido
      rw [hpedido] at hcorte
      rw [← hcorte]
      exact (ih _ _ _ _).trans (mismaTabla_modify _ _ fun s ↦ s.entrada_manejarEscritura _ _ _)

theorem mismaTabla_memoryIoEscribir (ram : Ram) (dirFisica tamanio : UInt32) (datos : List UInt8) :
    MismaTabla (memoryIoEscribir ram dirFisica tamanio datos).2.tabla ram.tabla :=
  mismaTabla_escribirTramos _ _ _ _ _

/-! ## Transfers without failures -/

/-- Sticks laid out by registration, all reachable, and no connection about to break. -/
structure Ram.Sana (ram : Ram) : Prop where
  bases : BasesAcumuladas 0 ram.tabla
  abiertos : Alcanzables ram.tabla
  sinCortes : ram.cortes = []

/-- The size of RAM, as `conexiones_tamanio_total_ram` computes it. -/
def Ram.total (ram : Ram) : ℕ := (conexionesTamanioTotalRam ram.tabla).toNat

theorem Ram.total_lt (ram : Ram) : ram.total < 2 ^ 32 := UInt32.toNat_lt _

theorem Ram.Sana.siguienteCorte {ram : Ram} (h : ram.Sana) : ram.siguienteCorte = (false, ram) := by
  simp only [Ram.siguienteCorte, h.sinCortes]

/-- The piece both loops take at an address inside RAM: the stick that serves it, and a length of
at least one byte within the stick's range. -/
structure Ram.Tramo (ram : Ram) (dirAct restante : UInt32) (idx : ℕ) (stick : MemoryStick)
    (chunk : UInt32) : Prop where
  busca : conexionesBuscarStickPorDir ram.tabla dirAct = some idx
  esta : ram.tabla[idx]? = some stick
  largo : (if stick.tamanio - (dirAct - stick.baseFisica) > restante then restante
    else stick.tamanio - (dirAct - stick.baseFisica)) = chunk
  pos : 0 < chunk.toNat
  le_restante : chunk.toNat ≤ restante.toNat
  base_le : stick.baseFisica.toNat ≤ dirAct.toNat
  local_eq : (dirAct - stick.baseFisica).toNat = dirAct.toNat - stick.baseFisica.toNat
  cabe : dirAct - stick.baseFisica + chunk ≤ stick.tamanio
  sirve : ∀ address, dirAct.toNat ≤ address → address < dirAct.toNat + chunk.toNat →
    ubicar ram.tabla address = some idx

theorem Ram.Sana.tramo {ram : Ram} (h : ram.Sana) {dirAct restante : UInt32} (hrestante : restante ≠ 0)
    (hdentro : dirAct.toNat + restante.toNat ≤ ram.total) :
    ∃ idx stick chunk, ram.Tramo dirAct restante idx stick chunk := by
  have hpos : 0 < restante.toNat := by
    rcases Nat.eq_zero_or_pos restante.toNat with hcero | hpos
    · exact absurd (UInt32.toNat_inj.mp hcero) hrestante
    · exact hpos
  have hmenor : dirAct.toNat < (sumaTamanios 0 ram.tabla).toNat := by
    have : ram.total = (sumaTamanios 0 ram.tabla).toNat := rfl
    omega
  obtain ⟨idx, stick, hget, hcubre, hrango, htramo⟩ :=
    ubicar_tramo h.bases h.abiertos (le_refl (0 : UInt32).toNat) (Nat.zero_le _) hmenor
  have hbase := hcubre.2.1
  have hfin := hcubre.2.2
  rw [toNat_add_of_lt hrango] at hfin
  have hlocal : (dirAct - stick.baseFisica).toNat = dirAct.toNat - stick.baseFisica.toNat :=
    toNat_sub_of_le hbase
  have hhasta : (stick.tamanio - (dirAct - stick.baseFisica)).toNat =
      stick.tamanio.toNat - (dirAct.toNat - stick.baseFisica.toNat) := by
    rw [toNat_sub_of_le (by omega), hlocal]
  obtain ⟨chunk, hchunk⟩ : ∃ chunk, (if stick.tamanio - (dirAct - stick.baseFisica) > restante
      then restante else stick.tamanio - (dirAct - stick.baseFisica)) = chunk := ⟨_, rfl⟩
  have hvalor : chunk.toNat =
      min restante.toNat (stick.tamanio.toNat - (dirAct.toNat - stick.baseFisica.toNat)) := by
    rw [← hchunk]
    split
    · rename_i hgt
      have : restante.toNat < (stick.tamanio - (dirAct - stick.baseFisica)).toNat :=
        UInt32.lt_iff_toNat_lt.mp hgt
      omega
    · rename_i hle
      have : (stick.tamanio - (dirAct - stick.baseFisica)).toNat ≤ restante.toNat :=
        UInt32.le_iff_toNat_le.mp (UInt32.not_lt.mp hle)
      omega
  exact ⟨idx, stick, chunk,
    { busca := by
        rw [conexionesBuscarStickPorDir_eq]
        exact htramo dirAct.toNat le_rfl (by omega)
      esta := hget
      largo := hchunk
      pos := by omega
      le_restante := by omega
      base_le := hbase
      local_eq := hlocal
      cabe := by
        rw [UInt32.le_iff_toNat_le, toNat_add_of_lt (by omega)]
        omega
      sirve := fun address hle hlt ↦ htramo address hle (by omega) }⟩

theorem leerTramos_plano {ram : Ram} (h : ram.Sana) (pasos : ℕ) {dirAct restante : UInt32}
    (hpasos : restante.toNat ≤ pasos) (hdentro : dirAct.toNat + restante.toNat ≤ ram.total) :
    leerTramos pasos ram dirAct restante =
      (.ok (ByteMemory.slice (plano ram.tabla) dirAct.toNat restante.toNat), ram) := by
  induction pasos generalizing dirAct restante with
  | zero =>
    have hcero : restante.toNat = 0 := by omega
    rw [hcero]
    rfl
  | succ pasos ih =>
    unfold leerTramos
    by_cases hrestante : restante = 0
    · subst hrestante
      rfl
    · have htotal := ram.total_lt
      obtain ⟨idx, stick, chunk, ht⟩ := h.tramo hrestante hdentro
      have hpos := ht.pos
      have hle := ht.le_restante
      have hbase := ht.base_le
      have hdir : (dirAct + chunk).toNat = dirAct.toNat + chunk.toNat := toNat_add_of_lt (by omega)
      have hresto : (restante - chunk).toNat = restante.toNat - chunk.toNat := toNat_sub_of_le hle
      have hdatos : ByteMemory.slice stick.memoria (dirAct - stick.baseFisica).toNat chunk.toNat =
          ByteMemory.slice (plano ram.tabla) dirAct.toNat chunk.toNat := by
        apply List.map_congr_left
        intro offset hoffset
        rw [List.mem_range] at hoffset
        rw [plano_of_ubicar (ht.sirve (dirAct.toNat + offset) (by omega) (by omega)) ht.esta,
          ht.local_eq]
        congr 1
        omega
      have hih : leerTramos pasos ram (dirAct + chunk) (restante - chunk) =
          (.ok (ByteMemory.slice (plano ram.tabla) (dirAct + chunk).toNat (restante - chunk).toNat),
            ram) :=
        ih (by omega) (by omega)
      rw [if_neg hrestante]
      simp only [ht.busca, ht.esta, ht.largo, h.siguienteCorte, MemoryStick.manejarLectura,
        if_pos ht.cabe, hih, hdatos, hdir, hresto]
      rw [← ByteMemory.slice_add, Nat.add_sub_cancel' hle]

/-- Reading inside RAM returns the bytes of the flat memory. -/
theorem memoryIoLeer_plano {ram : Ram} (h : ram.Sana) {dirFisica tamanio : UInt32}
    (hdentro : dirFisica.toNat + tamanio.toNat ≤ ram.total) :
    memoryIoLeer ram dirFisica tamanio =
      (.ok (ByteMemory.slice (plano ram.tabla) dirFisica.toNat tamanio.toNat), ram) :=
  leerTramos_plano h _ le_rfl hdentro

/-- What a successful write leaves: the same sticks, still reachable, over a new flat memory. -/
structure Ram.Escrita (ram despues : Ram) (memoria : ℕ → UInt8) : Prop where
  mismaTabla : MismaTabla despues.tabla ram.tabla
  cortes : despues.cortes = ram.cortes
  plano : ∀ address, plano despues.tabla address = memoria address

theorem Ram.Escrita.sana {ram despues : Ram} {memoria : ℕ → UInt8} (h : ram.Escrita despues memoria)
    (hsana : ram.Sana) : despues.Sana where
  bases := (h.mismaTabla.basesAcumuladas 0).mpr hsana.bases
  abiertos := h.mismaTabla.alcanzables.mpr hsana.abiertos
  sinCortes := h.cortes.trans hsana.sinCortes

theorem Ram.Escrita.total {ram despues : Ram} {memoria : ℕ → UInt8}
    (h : ram.Escrita despues memoria) : despues.total = ram.total := by
  simp only [Ram.total, conexionesTamanioTotalRam_eq, h.mismaTabla.sumaTamanios]

theorem Ram.Escrita.trans {ram medio despues : Ram} {memoria final : ℕ → UInt8}
    (h : ram.Escrita medio memoria) (h' : medio.Escrita despues final) : ram.Escrita despues final where
  mismaTabla := h'.mismaTabla.trans h.mismaTabla
  cortes := h'.cortes.trans h.cortes
  plano := h'.plano

/-- One request to a stick writes its piece into the flat memory. -/
theorem Ram.Tramo.escrita {ram : Ram} {dirAct restante chunk : UInt32} {idx : ℕ}
    {stick : MemoryStick} (ht : ram.Tramo dirAct restante idx stick chunk) (datos : List UInt8) :
    ram.Escrita (ram.pedirEscritura idx (dirAct - stick.baseFisica) chunk datos)
      (ByteMemory.overlay (Memoria.plano ram.tabla) dirAct.toNat (datos.take chunk.toNat)) := by
  have hforma : MismaTabla (ram.tabla.modify idx fun s ↦
      s.manejarEscritura (dirAct - stick.baseFisica) chunk datos) ram.tabla :=
    mismaTabla_modify _ _ fun s ↦ s.entrada_manejarEscritura _ _ _
  refine ⟨hforma, rfl, fun address ↦ ?_⟩
  have hlen : (datos.take chunk.toNat).length ≤ chunk.toNat := by
    rw [List.length_take]
    omega
  -- an address another stick serves, or none, lies outside the piece
  have hfuera : ubicar ram.tabla address ≠ some idx →
      address < dirAct.toNat ∨ dirAct.toNat + (datos.take chunk.toNat).length ≤ address := by
    intro hno
    by_contra hdentro
    exact hno (ht.sirve address (by omega) (by omega))
  cases hubicar : ubicar ram.tabla address with
  | none =>
    rw [ByteMemory.overlay_outside (hfuera (by rw [hubicar]; exact nofun))]
    simp only [Memoria.plano, Ram.pedirEscritura, hforma.ubicar, hubicar]
  | some k =>
    obtain ⟨s, hs, hcubre⟩ := cubre_of_ubicar hubicar
    by_cases hk : k = idx
    · subst hk
      obtain rfl : stick = s := Option.some.inj (ht.esta.symm.trans hs)
      have hbase := hcubre.2.1
      have hle := ht.base_le
      have hescrito : (ram.tabla.modify k fun s ↦
          s.manejarEscritura (dirAct - stick.baseFisica) chunk datos)[k]? =
          some (stick.manejarEscritura (dirAct - stick.baseFisica) chunk datos) := by
        simp [hs]
      have hpieza : (stick.manejarEscritura (dirAct - stick.baseFisica) chunk datos).memoria =
          ByteMemory.overlay stick.memoria (dirAct.toNat - stick.baseFisica.toNat)
            (datos.take chunk.toNat) := by
        simp only [MemoryStick.manejarEscritura, if_pos ht.cabe, ht.local_eq]
      have hmismaBase : (stick.manejarEscritura (dirAct - stick.baseFisica) chunk datos).baseFisica =
          stick.baseFisica := by
        simp only [MemoryStick.manejarEscritura, if_pos ht.cabe]
      rw [Ram.pedirEscritura, plano_of_ubicar ((hforma.ubicar address).trans hubicar) hescrito,
        hpieza, hmismaBase]
      by_cases hdentro : dirAct.toNat ≤ address ∧
          address < dirAct.toNat + (datos.take chunk.toNat).length
      · apply Option.some.inj
        rw [ByteMemory.overlay_inside (by omega) (by omega),
          ByteMemory.overlay_inside hdentro.1 hdentro.2]
        congr 1
        omega
      · rw [ByteMemory.overlay_outside (by omega), ByteMemory.overlay_outside (by omega),
          plano_of_ubicar hubicar hs]
    · have hotro : (ram.tabla.modify idx fun s ↦
          s.manejarEscritura (dirAct - stick.baseFisica) chunk datos)[k]? = some s := by
        simp [hs, Ne.symm hk]
      rw [ByteMemory.overlay_outside (hfuera (by rw [hubicar]; simpa using hk)),
        plano_of_ubicar hubicar hs]
      exact plano_of_ubicar ((hforma.ubicar address).trans hubicar) hotro

theorem escribirTramos_plano (pasos : ℕ) {ram : Ram} (h : ram.Sana) {dirAct restante : UInt32}
    {datos : List UInt8} (hpasos : restante.toNat ≤ pasos)
    (hdentro : dirAct.toNat + restante.toNat ≤ ram.total) (hdatos : restante.toNat ≤ datos.length) :
    ∃ despues, escribirTramos pasos ram dirAct restante datos = (.ok (), despues) ∧
      ram.Escrita despues
        (ByteMemory.overlay (plano ram.tabla) dirAct.toNat (datos.take restante.toNat)) := by
  induction pasos generalizing ram dirAct restante datos with
  | zero =>
    have hcero : restante.toNat = 0 := by omega
    refine ⟨ram, rfl, MismaTabla.refl _, rfl, fun address ↦ ?_⟩
    rw [hcero, List.take_zero, ByteMemory.overlay_nil]
  | succ pasos ih =>
    unfold escribirTramos
    by_cases hrestante : restante = 0
    · subst hrestante
      refine ⟨ram, rfl, MismaTabla.refl _, rfl, fun address ↦ ?_⟩
      rw [UInt32.toNat_zero, List.take_zero, ByteMemory.overlay_nil]
    · have htotal := ram.total_lt
      obtain ⟨idx, stick, chunk, ht⟩ := h.tramo hrestante hdentro
      have hpos := ht.pos
      have hle := ht.le_restante
      have hdir : (dirAct + chunk).toNat = dirAct.toNat + chunk.toNat := toNat_add_of_lt (by omega)
      have hresto : (restante - chunk).toNat = restante.toNat - chunk.toNat := toNat_sub_of_le hle
      have hpieza := ht.escrita datos
      have hcola : (restante - chunk).toNat ≤ (datos.drop chunk.toNat).length := by
        rw [List.length_drop]
        omega
      have hsigue : (dirAct + chunk).toNat + (restante - chunk).toNat ≤
          (ram.pedirEscritura idx (dirAct - stick.baseFisica) chunk datos).total := by
        rw [hpieza.total]
        omega
      obtain ⟨despues, heq, hescrita⟩ := ih (hpieza.sana h) (by omega) hsigue hcola
      refine ⟨despues, ?_, hpieza.trans ?_⟩
      · rw [if_neg hrestante]
        simp only [ht.busca, ht.esta, ht.largo, h.siguienteCorte, heq]
      · -- the two pieces, written one after the other, are the whole
        have hlen : (datos.take chunk.toNat).length = chunk.toNat := by
          rw [List.length_take]
          omega
        have htake : datos.take restante.toNat =
            datos.take chunk.toNat ++ (datos.drop chunk.toNat).take (restante.toNat - chunk.toNat) := by
          rw [← List.take_add, Nat.add_sub_cancel' hle]
        refine ⟨hescrita.mismaTabla, hescrita.cortes, fun address ↦ ?_⟩
        rw [hescrita.plano, htake, ByteMemory.overlay_append, hlen, hdir, hresto,
          funext hpieza.plano]

/-- Writing inside RAM replaces exactly the bytes of the flat memory it names. -/
theorem memoryIoEscribir_plano {ram : Ram} (h : ram.Sana) {dirFisica tamanio : UInt32}
    {datos : List UInt8} (hdentro : dirFisica.toNat + tamanio.toNat ≤ ram.total)
    (hdatos : tamanio.toNat ≤ datos.length) :
    ∃ despues, memoryIoEscribir ram dirFisica tamanio datos = (.ok (), despues) ∧
      ram.Escrita despues
        (ByteMemory.overlay (plano ram.tabla) dirFisica.toNat (datos.take tamanio.toNat)) :=
  escribirTramos_plano _ h le_rfl hdentro hdatos

end PlugAndPlay.Memoria
