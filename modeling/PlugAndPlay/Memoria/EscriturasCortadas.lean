import PlugAndPlay.Memoria.MemoryIo

/-!
# Writes that are cut short

What `memory_io_escribir` leaves behind in any state of the sticks, whatever request breaks: the pieces
before the first failure are written, and nothing else changes. A write has done what it was asked for if
and only if what it left unwritten was there before.
-/

open PlugAndPlay.Library

namespace PlugAndPlay.Memoria

/-- What a read finds when no connection breaks. -/
def lectura (tabla : List MemoryStick) (dirFisica tamanio : UInt32) : Except FalloIo (List UInt8) :=
  (memoryIoLeer ⟨tabla, [], 0⟩ dirFisica tamanio).1

/-- The bytes that the loop of `memory_io_escribir` writes before its first failure. -/
def tramosEscritos : ℕ → Ram → UInt32 → UInt32 → UInt32
  | 0, _, _, _ => 0
  | pasos + 1, ram, dirAct, restante =>
    if restante = 0 then 0
    else
      match conexionesBuscarStickPorDir ram.tabla dirAct with
      | none => 0
      | some idx =>
        match ram.tabla[idx]? with
        | none => 0
        | some stick =>
          let hastaElFin := stick.tamanio - (dirAct - stick.baseFisica)
          let chunk := if hastaElFin > restante then restante else hastaElFin
          match ram.siguienteCorte with
          | (true, _) => 0
          | (false, ram) => chunk + tramosEscritos pasos ram (dirAct + chunk) (restante - chunk)

def bytesEscritos (ram : Ram) (dirFisica tamanio : UInt32) : UInt32 :=
  tramosEscritos tamanio.toNat ram dirFisica tamanio

/-! ## Pieces -/

/-- The piece that both loops take at an address that some stick serves. The range of that stick does not
wrap, so that the piece does not either. -/
structure Pieza (tabla : List MemoryStick) (dirAct restante : UInt32) (idx : ℕ) (stick : MemoryStick)
    (chunk : UInt32) : Prop where
  busca : conexionesBuscarStickPorDir tabla dirAct = some idx
  esta : tabla[idx]? = some stick
  largo : (if stick.tamanio - (dirAct - stick.baseFisica) > restante then restante
    else stick.tamanio - (dirAct - stick.baseFisica)) = chunk
  pos : 0 < chunk.toNat
  le_restante : chunk.toNat ≤ restante.toNat
  base_le : stick.baseFisica.toNat ≤ dirAct.toNat
  local_eq : (dirAct - stick.baseFisica).toNat = dirAct.toNat - stick.baseFisica.toNat
  cabe : dirAct - stick.baseFisica + chunk ≤ stick.tamanio
  sinVuelta : dirAct.toNat + chunk.toNat < 2 ^ 32

theorem toNat_pos_of_ne {a : UInt32} (h : a ≠ 0) : 0 < a.toNat := by
  rcases Nat.eq_zero_or_pos a.toNat with hcero | hpos
  · exact absurd (UInt32.toNat_inj.mp hcero) h
  · exact hpos

theorem exists_pieza {tabla : List MemoryStick} {dirAct restante : UInt32} {idx : ℕ}
    (hbusca : conexionesBuscarStickPorDir tabla dirAct = some idx) (hrestante : restante ≠ 0) :
    ∃ stick chunk, Pieza tabla dirAct restante idx stick chunk := by
  have hpos := toNat_pos_of_ne hrestante
  have hubicar := (conexionesBuscarStickPorDir_eq tabla dirAct).symm.trans hbusca
  obtain ⟨stick, hget, _, hbase, hfin⟩ := cubre_of_ubicar hubicar
  have htam := stick.tamanio.toNat_lt
  have hinicio := stick.baseFisica.toNat_lt
  have hsuma : (stick.baseFisica + stick.tamanio).toNat =
      (stick.baseFisica.toNat + stick.tamanio.toNat) % 2 ^ 32 := UInt32.toNat_add _ _
  have hrango : stick.baseFisica.toNat + stick.tamanio.toNat < 2 ^ 32 := by omega
  have hlocal : (dirAct - stick.baseFisica).toNat = dirAct.toNat - stick.baseFisica.toNat :=
    toNat_sub_of_le hbase
  have hhasta : (stick.tamanio - (dirAct - stick.baseFisica)).toNat =
      stick.tamanio.toNat - (dirAct.toNat - stick.baseFisica.toNat) := by
    rw [toNat_sub_of_le (by omega), hlocal]
  generalize hchunk : (if stick.tamanio - (dirAct - stick.baseFisica) > restante
    then restante else stick.tamanio - (dirAct - stick.baseFisica)) = chunk
  have hvalor : chunk.toNat =
      min restante.toNat (stick.tamanio.toNat - (dirAct.toNat - stick.baseFisica.toNat)) := by
    rw [← hchunk]
    split
    · rename_i hgt
      have hlt := UInt32.lt_iff_toNat_lt.mp hgt
      omega
    · rename_i hle
      have hle := UInt32.le_iff_toNat_le.mp (UInt32.not_lt.mp hle)
      omega
  exact ⟨stick, chunk,
    { busca := hbusca
      esta := hget
      largo := hchunk
      pos := by omega
      le_restante := by omega
      base_le := hbase
      local_eq := hlocal
      cabe := by
        rw [UInt32.le_iff_toNat_le, toNat_add_of_lt (by omega)]
        omega
      sinVuelta := by omega }⟩

section Pieza

variable {tabla : List MemoryStick} {dirAct restante chunk : UInt32} {idx : ℕ} {stick : MemoryStick}
  (h : Pieza tabla dirAct restante idx stick chunk)
include h

theorem Pieza.siguiente : (dirAct + chunk).toNat = dirAct.toNat + chunk.toNat := toNat_add_of_lt h.sinVuelta

theorem Pieza.queda : (restante - chunk).toNat = restante.toNat - chunk.toNat := toNat_sub_of_le h.le_restante

theorem Pieza.restante_ne : restante ≠ 0 := by
  rintro rfl
  have hpos := h.pos
  have hle := h.le_restante
  rw [UInt32.toNat_zero] at hle
  omega

end Pieza

/-! ## Reads -/

/-- More steps than bytes change nothing. -/
theorem leerTramos_pasos (pasos otros : ℕ) (ram : Ram) {dirAct restante : UInt32}
    (hpasos : restante.toNat ≤ pasos) (hotros : restante.toNat ≤ otros) :
    leerTramos pasos ram dirAct restante = leerTramos otros ram dirAct restante := by
  induction pasos generalizing otros ram dirAct restante with
  | zero =>
    have hcero : restante = 0 := UInt32.toNat_inj.mp (Nat.le_zero.mp hpasos)
    subst hcero
    cases otros with
    | zero => rfl
    | succ otros => rfl
  | succ pasos ih =>
    cases otros with
    | zero =>
      have hcero : restante = 0 := UInt32.toNat_inj.mp (Nat.le_zero.mp hotros)
      subst hcero
      rfl
    | succ otros =>
      unfold leerTramos
      by_cases hrestante : restante = 0
      · rw [if_pos hrestante, if_pos hrestante]
      rw [if_neg hrestante, if_neg hrestante]
      cases hbusca : conexionesBuscarStickPorDir ram.tabla dirAct with
      | none => rfl
      | some idx =>
        obtain ⟨stick, chunk, hpieza⟩ := exists_pieza hbusca hrestante
        have hpos := hpieza.pos
        have hqueda := hpieza.queda
        have hsigue : ∀ ram, leerTramos pasos ram (dirAct + chunk) (restante - chunk) =
            leerTramos otros ram (dirAct + chunk) (restante - chunk) :=
          fun ram ↦ ih otros ram (by omega) (by omega)
        simp only [hpieza.esta, hpieza.largo, hsigue]

theorem lectura_cero (tabla : List MemoryStick) (dirAct : UInt32) : lectura tabla dirAct 0 = .ok [] := rfl

theorem lectura_sinStick {tabla : List MemoryStick} {dirAct restante : UInt32} (hrestante : restante ≠ 0)
    (hbusca : conexionesBuscarStickPorDir tabla dirAct = none) :
    lectura tabla dirAct restante = .error .sinStick := by
  have hpos := toNat_pos_of_ne hrestante
  unfold lectura memoryIoLeer
  rw [leerTramos_pasos _ (restante.toNat - 1 + 1) _ (Nat.le_refl _) (by omega)]
  unfold leerTramos
  rw [if_neg hrestante]
  simp only [hbusca]

/-- A read takes the bytes of its first piece and goes on behind it. -/
theorem lectura_pieza {tabla : List MemoryStick} {dirAct restante chunk : UInt32} {idx : ℕ}
    {stick : MemoryStick} (h : Pieza tabla dirAct restante idx stick chunk) :
    lectura tabla dirAct restante = (lectura tabla (dirAct + chunk) (restante - chunk)).map
      (ByteMemory.slice stick.memoria (dirAct - stick.baseFisica).toNat chunk.toNat ++ ·) := by
  have hpos := h.pos
  have hqueda := h.queda
  unfold lectura memoryIoLeer
  rw [leerTramos_pasos _ (restante.toNat - 1 + 1) _ (Nat.le_refl _) (by omega),
    leerTramos_pasos _ (restante.toNat - 1) _ (Nat.le_refl (restante - chunk).toNat) (by omega)]
  conv_lhs => unfold leerTramos
  rw [if_neg h.restante_ne]
  simp only [h.busca, h.esta, h.largo, Ram.siguienteCorte, MemoryStick.manejarLectura, if_pos h.cabe]
  cases hresto : leerTramos (restante.toNat - 1) ⟨tabla, [], 0⟩ (dirAct + chunk) (restante - chunk) with
  | mk fin ram =>
    cases fin with
    | error fallo => rfl
    | ok resto => rfl

/-! ## Tables that agree at some addresses -/

/-- The same entries, and the same bytes where a stick holds an address of the region. -/
def CoincidenEn (region : ℕ → Prop) (tabla otra : List MemoryStick) : Prop :=
  MismaTabla otra tabla ∧ ∀ (idx : ℕ) (stick stick' : MemoryStick), tabla[idx]? = some stick →
    otra[idx]? = some stick' →
      ByteMemory.AgreeOn (fun offset ↦ region (stick.baseFisica.toNat + offset)) stick'.memoria
        stick.memoria

variable {region : ℕ → Prop} {tabla otra tercera : List MemoryStick} {dirAct restante chunk : UInt32}
  {idx : ℕ} {stick stick' : MemoryStick} {ram : Ram} {datos : List UInt8}

theorem CoincidenEn.refl (region : ℕ → Prop) (tabla : List MemoryStick) : CoincidenEn region tabla tabla := by
  refine ⟨MismaTabla.refl tabla, fun idx stick stick' hget hget' ↦ ?_⟩
  obtain rfl := Option.some.inj (hget.symm.trans hget')
  exact ByteMemory.AgreeOn.refl _ _

theorem MismaTabla.entradaEn (h : MismaTabla otra tabla) (hget : tabla[idx]? = some stick) :
    ∃ stick', otra[idx]? = some stick' ∧ stick'.entrada = stick.entrada := by
  have hmap := congrArg (fun l : List MemoryStick ↦ l[idx]?) h
  simp only [List.getElem?_map, hget, Option.map_some] at hmap
  exact Option.map_eq_some_iff.mp hmap

theorem baseFisica_of_entrada (h : stick'.entrada = stick.entrada) : stick'.baseFisica = stick.baseFisica :=
  (congrArg MemoryStick.baseFisica h :)

theorem tamanio_of_entrada (h : stick'.entrada = stick.entrada) : stick'.tamanio = stick.tamanio :=
  (congrArg MemoryStick.tamanio h :)

theorem CoincidenEn.trans (h : CoincidenEn region tabla otra) (h' : CoincidenEn region otra tercera) :
    CoincidenEn region tabla tercera := by
  refine ⟨h'.1.trans h.1, fun idx stick tercero hget hget' ↦ ?_⟩
  obtain ⟨medio, hmedio, hentrada⟩ := h.1.entradaEn hget
  have hprimero := h.2 idx stick medio hget hmedio
  have hsegundo := h'.2 idx medio tercero hmedio hget'
  rw [baseFisica_of_entrada hentrada] at hsegundo
  exact hsegundo.trans hprimero

theorem CoincidenEn.mono {otraRegion : ℕ → Prop} (h : CoincidenEn region tabla otra)
    (hregion : ∀ address, otraRegion address → region address) : CoincidenEn otraRegion tabla otra :=
  ⟨h.1, fun idx stick stick' hget hget' offset hoffset ↦ h.2 idx stick stick' hget hget' offset
    (hregion _ hoffset)⟩

theorem MismaTabla.buscar (h : MismaTabla otra tabla) (dirFisica : UInt32) :
    conexionesBuscarStickPorDir otra dirFisica = conexionesBuscarStickPorDir tabla dirFisica := by
  rw [conexionesBuscarStickPorDir_eq, conexionesBuscarStickPorDir_eq, h.ubicar]

/-- The pieces do not depend on the bytes. -/
theorem Pieza.congr (hpieza : Pieza tabla dirAct restante idx stick chunk) (h : MismaTabla otra tabla) :
    ∃ stick', stick'.entrada = stick.entrada ∧ Pieza otra dirAct restante idx stick' chunk := by
  obtain ⟨stick', hget, hentrada⟩ := h.entradaEn hpieza.esta
  have hbase := baseFisica_of_entrada hentrada
  have htam := tamanio_of_entrada hentrada
  exact ⟨stick', hentrada,
    { busca := (h.buscar dirAct).trans hpieza.busca
      esta := hget
      largo := by
        rw [hbase, htam]
        exact hpieza.largo
      pos := hpieza.pos
      le_restante := hpieza.le_restante
      base_le := by
        rw [hbase]
        exact hpieza.base_le
      local_eq := by
        rw [hbase]
        exact hpieza.local_eq
      cabe := by
        rw [hbase, htam]
        exact hpieza.cabe
      sinVuelta := hpieza.sinVuelta }⟩

/-- A read depends only on the addresses that it names. -/
theorem lectura_congr (h : CoincidenEn (dirAct.toNat ≤ ·) tabla otra) (restante : UInt32) :
    lectura otra dirAct restante = lectura tabla dirAct restante := by
  induction hn : restante.toNat using Nat.strong_induction_on generalizing dirAct restante with
  | _ n ih =>
    by_cases hrestante : restante = 0
    · rw [hrestante, lectura_cero, lectura_cero]
    cases hbusca : conexionesBuscarStickPorDir tabla dirAct with
    | none =>
      rw [lectura_sinStick hrestante hbusca, lectura_sinStick hrestante ((h.1.buscar dirAct).trans hbusca)]
    | some idx =>
      obtain ⟨stick, chunk, hpieza⟩ := exists_pieza hbusca hrestante
      obtain ⟨stick', hentrada, hpieza'⟩ := hpieza.congr h.1
      have hpos := hpieza.pos
      have hle := hpieza.le_restante
      have hbase := hpieza.base_le
      have hlocal := hpieza.local_eq
      have hdatos : ByteMemory.slice stick'.memoria (dirAct - stick.baseFisica).toNat chunk.toNat =
          ByteMemory.slice stick.memoria (dirAct - stick.baseFisica).toNat chunk.toNat := by
        apply (h.2 idx stick stick' hpieza.esta hpieza'.esta).slice
        intro offset hdesde _
        omega
      have hresto : lectura otra (dirAct + chunk) (restante - chunk) =
          lectura tabla (dirAct + chunk) (restante - chunk) := by
        have hqueda := hpieza.queda
        apply ih (restante - chunk).toNat (by omega) _ (restante - chunk) rfl
        apply h.mono
        intro address hdesde
        rw [hpieza.siguiente] at hdesde
        omega
      rw [lectura_pieza hpieza', lectura_pieza hpieza, baseFisica_of_entrada hentrada, hdatos, hresto]

/-! ## Writes -/

/-- A request to a stick writes its piece. -/
theorem Pieza.escrito (h : Pieza tabla dirAct restante idx stick chunk) (datos : List UInt8) :
    (stick.manejarEscritura (dirAct - stick.baseFisica) chunk datos).memoria =
      ByteMemory.overlay stick.memoria (dirAct - stick.baseFisica).toNat (datos.take chunk.toNat) := by
  simp only [MemoryStick.manejarEscritura, if_pos h.cabe]

theorem Pieza.coinciden (h : Pieza ram.tabla dirAct restante idx stick chunk) (datos : List UInt8) :
    CoincidenEn (fun address ↦ address < dirAct.toNat ∨ dirAct.toNat + chunk.toNat ≤ address) ram.tabla
      (ram.pedirEscritura idx (dirAct - stick.baseFisica) chunk datos).tabla := by
  refine ⟨mismaTabla_modify _ _ fun s ↦ s.entrada_manejarEscritura _ _ _, fun k s s' hget hget' ↦ ?_⟩
  unfold Ram.pedirEscritura at hget'
  simp only [List.getElem?_modify, hget, Option.map_eq_map, Option.map_some, Option.some.injEq] at hget'
  subst hget'
  by_cases hk : idx = k
  · subst hk
    obtain rfl := Option.some.inj (h.esta.symm.trans hget)
    rw [if_pos rfl, h.escrito]
    intro offset hfuera
    have hbase := h.base_le
    have hlocal := h.local_eq
    have hlargo := List.length_take_le chunk.toNat datos
    apply ByteMemory.overlay_outside
    omega
  · rw [if_neg hk]
    exact ByteMemory.AgreeOn.refl _ _

/-- The loop at an address that a stick serves. -/
theorem escribirTramos_pieza (h : Pieza ram.tabla dirAct restante idx stick chunk) (pasos : ℕ)
    (datos : List UInt8) :
    escribirTramos (pasos + 1) ram dirAct restante datos =
      match ram.siguienteCorte with
      | (true, ram) => (.error .desconectado, ram.avisar)
      | (false, ram) =>
        escribirTramos pasos (ram.pedirEscritura idx (dirAct - stick.baseFisica) chunk datos)
          (dirAct + chunk) (restante - chunk) (datos.drop chunk.toNat) := by
  conv_lhs => unfold escribirTramos
  rw [if_neg h.restante_ne]
  cases ram.siguienteCorte with
  | mk corte ram =>
    cases corte with
    | false => simp only [h.busca, h.esta, h.largo]
    | true => simp only [h.busca, h.esta]

theorem tramosEscritos_pieza (h : Pieza ram.tabla dirAct restante idx stick chunk) (pasos : ℕ) :
    tramosEscritos (pasos + 1) ram dirAct restante =
      match ram.siguienteCorte with
      | (true, _) => 0
      | (false, ram) => chunk + tramosEscritos pasos ram (dirAct + chunk) (restante - chunk) := by
  conv_lhs => unfold tramosEscritos
  rw [if_neg h.restante_ne]
  simp only [h.busca, h.esta, h.largo]

/-- The two ends of a piece: the request breaks, or the loop goes on behind what it has written. -/
theorem corte_cases (ram : Ram) :
    (∃ despues, ram.siguienteCorte = (true, despues) ∧ despues.tabla = ram.tabla) ∨
      ∃ despues, ram.siguienteCorte = (false, despues) ∧ despues.tabla = ram.tabla := by
  have htabla := ram.tabla_siguienteCorte
  cases hcorte : ram.siguienteCorte with
  | mk corte despues =>
    rw [hcorte] at htabla
    cases corte with
    | true => exact .inl ⟨despues, rfl, htabla⟩
    | false => exact .inr ⟨despues, rfl, htabla⟩

/-- A read that succeeds gives what is there, and as many bytes as were asked for. -/
theorem lectura_of_leer {pasos : ℕ} {ram ram' : Ram} {dirAct restante : UInt32} {datos : List UInt8}
    (hpasos : restante.toNat ≤ pasos) (h : leerTramos pasos ram dirAct restante = (.ok datos, ram')) :
    lectura ram.tabla dirAct restante = .ok datos ∧ datos.length = restante.toNat := by
  induction pasos generalizing ram ram' dirAct restante datos with
  | zero =>
    have hcero : restante = 0 := UInt32.toNat_inj.mp (Nat.le_zero.mp hpasos)
    subst hcero
    cases h
    exact ⟨rfl, rfl⟩
  | succ pasos ih =>
    unfold leerTramos at h
    by_cases hrestante : restante = 0
    · subst hrestante
      cases h
      exact ⟨rfl, rfl⟩
    rw [if_neg hrestante] at h
    cases hbusca : conexionesBuscarStickPorDir ram.tabla dirAct with
    | none =>
      rw [hbusca] at h
      cases h
    | some idx =>
      obtain ⟨stick, chunk, hpieza⟩ := exists_pieza hbusca hrestante
      have hpos := hpieza.pos
      have hle := hpieza.le_restante
      have hqueda := hpieza.queda
      simp only [hpieza.busca, hpieza.esta, hpieza.largo, MemoryStick.manejarLectura,
        if_pos hpieza.cabe] at h
      obtain ⟨despues, hcorte, _⟩ | ⟨despues, hcorte, htabla⟩ := corte_cases ram
      · rw [hcorte] at h
        cases h
      · rw [hcorte] at h
        simp only at h
        cases hresto : leerTramos pasos despues (dirAct + chunk) (restante - chunk) with
        | mk fin final =>
          rw [hresto] at h
          cases fin with
          | error fallo => cases h
          | ok resto =>
            obtain ⟨hleido, hlargo⟩ := ih (show (restante - chunk).toNat ≤ pasos by omega) hresto
            obtain ⟨hdatos, _⟩ := Prod.mk.inj h
            obtain rfl := Except.ok.inj hdatos
            rw [htabla] at hleido
            refine ⟨?_, ?_⟩
            · rw [lectura_pieza hpieza, hleido]
              rfl
            · rw [List.length_append, ByteMemory.length_slice, hlargo]
              omega

/-- A write changes nothing before its address. -/
theorem coinciden_escribirTramos (pasos : ℕ) (ram : Ram) (dirAct restante : UInt32) (datos : List UInt8) :
    CoincidenEn (· < dirAct.toNat) ram.tabla (escribirTramos pasos ram dirAct restante datos).2.tabla := by
  induction pasos generalizing ram dirAct restante datos with
  | zero => exact CoincidenEn.refl _ _
  | succ pasos ih =>
    by_cases hrestante : restante = 0
    · unfold escribirTramos
      rw [if_pos hrestante]
      exact CoincidenEn.refl _ _
    cases hbusca : conexionesBuscarStickPorDir ram.tabla dirAct with
    | none =>
      unfold escribirTramos
      rw [if_neg hrestante, hbusca]
      exact CoincidenEn.refl _ _
    | some idx =>
      obtain ⟨stick, chunk, hpieza⟩ := exists_pieza hbusca hrestante
      rw [escribirTramos_pieza hpieza]
      obtain ⟨despues, hcorte, htabla⟩ | ⟨despues, hcorte, htabla⟩ := corte_cases ram
      · rw [hcorte]
        show CoincidenEn _ ram.tabla despues.tabla
        rw [htabla]
        exact CoincidenEn.refl _ _
      · rw [hcorte]
        rw [← htabla] at hpieza ⊢
        have hpropia := hpieza.coinciden datos
        have hsigue := ih (despues.pedirEscritura idx (dirAct - stick.baseFisica) chunk datos)
          (dirAct + chunk) (restante - chunk) (datos.drop chunk.toNat)
        apply (hpropia.mono fun _ hantes ↦ .inl hantes).trans
        apply hsigue.mono
        intro address hantes
        rw [hpieza.siguiente]
        omega

/-- The bytes that are written do not wrap. -/
theorem tramosEscritos_le (pasos : ℕ) (ram : Ram) (dirAct restante : UInt32) :
    (tramosEscritos pasos ram dirAct restante).toNat ≤ restante.toNat ∧
      dirAct.toNat + (tramosEscritos pasos ram dirAct restante).toNat < 2 ^ 32 := by
  induction pasos generalizing ram dirAct restante with
  | zero => exact ⟨Nat.zero_le _, dirAct.toNat_lt⟩
  | succ pasos ih =>
    by_cases hrestante : restante = 0
    · unfold tramosEscritos
      rw [if_pos hrestante]
      exact ⟨Nat.zero_le _, dirAct.toNat_lt⟩
    cases hbusca : conexionesBuscarStickPorDir ram.tabla dirAct with
    | none =>
      unfold tramosEscritos
      rw [if_neg hrestante, hbusca]
      exact ⟨Nat.zero_le _, dirAct.toNat_lt⟩
    | some idx =>
      obtain ⟨stick, chunk, hpieza⟩ := exists_pieza hbusca hrestante
      rw [tramosEscritos_pieza hpieza]
      obtain ⟨despues, hcorte, _⟩ | ⟨despues, hcorte, _⟩ := corte_cases ram
      · rw [hcorte]
        exact ⟨Nat.zero_le _, dirAct.toNat_lt⟩
      · rw [hcorte]
        obtain ⟨hcota, hvuelta⟩ := ih despues (dirAct + chunk) (restante - chunk)
        rw [hpieza.queda] at hcota
        rw [hpieza.siguiente] at hvuelta
        have hle := hpieza.le_restante
        have hsuma : (chunk + tramosEscritos pasos despues (dirAct + chunk) (restante - chunk)).toNat =
            chunk.toNat + (tramosEscritos pasos despues (dirAct + chunk) (restante - chunk)).toNat :=
          toNat_add_of_lt (by omega)
        simp only
        rw [hsuma]
        omega

theorem tramosEscritos_cero (pasos : ℕ) (ram : Ram) (dirAct : UInt32) :
    tramosEscritos pasos ram dirAct 0 = 0 := by
  cases pasos with
  | zero => rfl
  | succ pasos => rfl

/-- How far a write comes does not depend on the bytes. -/
theorem tramosEscritos_congr (pasos : ℕ) {otra : Ram} (dirAct restante : UInt32)
    (h : MismaTabla otra.tabla ram.tabla) (hcortes : otra.cortes = ram.cortes) :
    tramosEscritos pasos otra dirAct restante = tramosEscritos pasos ram dirAct restante := by
  induction pasos generalizing ram otra dirAct restante with
  | zero => rfl
  | succ pasos ih =>
    by_cases hrestante : restante = 0
    · subst hrestante
      rfl
    cases hbusca : conexionesBuscarStickPorDir ram.tabla dirAct with
    | none =>
      unfold tramosEscritos
      rw [h.buscar, hbusca]
    | some idx =>
      obtain ⟨stick, chunk, hpieza⟩ := exists_pieza hbusca hrestante
      obtain ⟨stick', _, hpieza'⟩ := hpieza.congr h
      rw [tramosEscritos_pieza hpieza, tramosEscritos_pieza hpieza']
      unfold Ram.siguienteCorte
      rw [hcortes]
      cases hcorte : ram.cortes with
      | nil =>
        simp only
        rw [ih _ _ h hcortes]
      | cons corte resto =>
        cases corte with
        | true => rfl
        | false =>
          have hsigue := @ih ⟨ram.tabla, resto, ram.avisosBsod⟩ ⟨otra.tabla, resto, otra.avisosBsod⟩
            (dirAct + chunk) (restante - chunk) h rfl
          simp only [hsigue]

theorem sub_add_eq (a b c : UInt32) : a - (b + c) = a - b - c := by
  rw [UInt32.sub_eq_add_neg, UInt32.neg_add, UInt32.sub_eq_add_neg, ← UInt32.add_assoc,
    ← UInt32.sub_eq_add_neg, ← UInt32.sub_eq_add_neg]

theorem map_append_eq_ok {x : Except FalloIo (List UInt8)} {primero resto : List UInt8} :
    x.map (primero ++ ·) = .ok (primero ++ resto) ↔ x = .ok resto := by
  cases x with
  | error fallo => exact ⟨nofun, nofun⟩
  | ok datos => simp [Except.map]

/-- A piece that was written is read back, whatever is written behind it. -/
theorem Pieza.leida (h : Pieza ram.tabla dirAct restante idx stick chunk)
    (hdatos : chunk.toNat ≤ datos.length)
    (hresto : CoincidenEn (· < dirAct.toNat + chunk.toNat)
      (ram.pedirEscritura idx (dirAct - stick.baseFisica) chunk datos).tabla otra) :
    lectura otra dirAct restante =
      (lectura otra (dirAct + chunk) (restante - chunk)).map (datos.take chunk.toNat ++ ·) := by
  have hescrito : (ram.pedirEscritura idx (dirAct - stick.baseFisica) chunk datos).tabla[idx]? =
      some (stick.manejarEscritura (dirAct - stick.baseFisica) chunk datos) := by
    simp [Ram.pedirEscritura, h.esta]
  have hmisma := h.coinciden datos
  obtain ⟨stick', hentrada, hpieza⟩ := h.congr (hresto.1.trans hmisma.1)
  have hbase := h.base_le
  have hlocal := h.local_eq
  have hlargo : (datos.take chunk.toNat).length = chunk.toNat := by
    rw [List.length_take]
    omega
  have hmismaBase : (stick.manejarEscritura (dirAct - stick.baseFisica) chunk datos).baseFisica =
      stick.baseFisica := baseFisica_of_entrada (stick.entrada_manejarEscritura _ _ _)
  have hdatos : ByteMemory.slice stick'.memoria (dirAct - stick.baseFisica).toNat chunk.toNat =
      datos.take chunk.toNat := by
    rw [(hresto.2 idx _ stick' hescrito hpieza.esta).slice, h.escrito]
    · have hleido : ByteMemory.slice (ByteMemory.overlay stick.memoria (dirAct - stick.baseFisica).toNat
          (datos.take chunk.toNat)) (dirAct - stick.baseFisica).toNat (datos.take chunk.toNat).length =
            datos.take chunk.toNat := ByteMemory.slice_overlay_same
      rwa [hlargo] at hleido
    · intro offset _ hhasta
      rw [hmismaBase]
      omega
  rw [lectura_pieza hpieza, baseFisica_of_entrada hentrada, hdatos]

/-- After a write its bytes are at the address if and only if those that it left unwritten were there. -/
theorem lectura_escribirTramos (pasos : ℕ) (ram : Ram) {dirAct restante : UInt32} {datos : List UInt8}
    (hpasos : restante.toNat ≤ pasos) (hdatos : restante.toNat ≤ datos.length) :
    lectura (escribirTramos pasos ram dirAct restante datos).2.tabla dirAct restante =
        .ok (datos.take restante.toNat) ↔
      lectura ram.tabla (dirAct + tramosEscritos pasos ram dirAct restante)
          (restante - tramosEscritos pasos ram dirAct restante) =
        .ok ((datos.take restante.toNat).drop (tramosEscritos pasos ram dirAct restante).toNat) := by
  induction pasos generalizing ram dirAct restante datos with
  | zero =>
    have hcero : restante = 0 := UInt32.toNat_inj.mp (Nat.le_zero.mp hpasos)
    subst hcero
    simp [tramosEscritos_cero, lectura_cero]
  | succ pasos ih =>
    by_cases hrestante : restante = 0
    · subst hrestante
      simp [tramosEscritos_cero, lectura_cero]
    cases hbusca : conexionesBuscarStickPorDir ram.tabla dirAct with
    | none =>
      unfold escribirTramos tramosEscritos
      rw [if_neg hrestante, if_neg hrestante, hbusca]
      simp only [UInt32.add_zero, UInt32.sub_zero, UInt32.toNat_zero, List.drop_zero]
    | some idx =>
      obtain ⟨stick, chunk, hpieza⟩ := exists_pieza hbusca hrestante
      rw [escribirTramos_pieza hpieza, tramosEscritos_pieza hpieza]
      obtain ⟨despues, hcorte, htabla⟩ | ⟨despues, hcorte, htabla⟩ := corte_cases ram
      · rw [hcorte]
        simp only [UInt32.add_zero, UInt32.sub_zero, UInt32.toNat_zero, List.drop_zero, Ram.avisar, htabla]
      · rw [hcorte]
        rw [← htabla] at hpieza ⊢
        have hpos := hpieza.pos
        have hle := hpieza.le_restante
        have hqueda := hpieza.queda
        have hsiguiente := hpieza.siguiente
        simp only
        obtain ⟨hcota, hvuelta⟩ := tramosEscritos_le pasos despues (dirAct + chunk) (restante - chunk)
        have hresto := coinciden_escribirTramos pasos
          (despues.pedirEscritura idx (dirAct - stick.baseFisica) chunk datos) (dirAct + chunk)
          (restante - chunk) (datos.drop chunk.toNat)
        rw [hsiguiente] at hresto
        have hescritos : tramosEscritos pasos
            (despues.pedirEscritura idx (dirAct - stick.baseFisica) chunk datos) (dirAct + chunk)
            (restante - chunk) = tramosEscritos pasos despues (dirAct + chunk) (restante - chunk) :=
          tramosEscritos_congr pasos _ _ (hpieza.coinciden datos).1 rfl
        have hcola : (restante - chunk).toNat ≤ (datos.drop chunk.toNat).length := by
          rw [List.length_drop]
          omega
        have hpartes : datos.take restante.toNat = datos.take chunk.toNat ++
            (datos.drop chunk.toNat).take (restante - chunk).toNat := by
          rw [hqueda, ← List.take_add, Nat.add_sub_cancel' hle]
        rw [hpieza.leida (by omega) hresto, hpartes, map_append_eq_ok, ih _ (by omega) hcola, hescritos]
        generalize tramosEscritos pasos despues (dirAct + chunk) (restante - chunk) = k at hcota hvuelta
        -- what is read behind the bytes that were written is what was there before the first piece
        have hsuma : (chunk + k).toNat = chunk.toNat + k.toNat := toNat_add_of_lt (by omega)
        have hdetras : (dirAct + chunk + k).toNat = dirAct.toNat + chunk.toNat + k.toNat := by
          rw [toNat_add_of_lt hvuelta, hsiguiente]
        have hantes : lectura (despues.pedirEscritura idx (dirAct - stick.baseFisica) chunk datos).tabla
            (dirAct + chunk + k) (restante - chunk - k) =
              lectura despues.tabla (dirAct + chunk + k) (restante - chunk - k) := by
          apply lectura_congr
          apply (hpieza.coinciden datos).mono
          intro address hdesde
          rw [hdetras] at hdesde
          omega
        have hdrop : (datos.take chunk.toNat ++ (datos.drop chunk.toNat).take (restante - chunk).toNat).drop
            (chunk + k).toNat = ((datos.drop chunk.toNat).take (restante - chunk).toNat).drop k.toNat := by
          have hlargo : (datos.take chunk.toNat).length = chunk.toNat := by
            rw [List.length_take]
            omega
          rw [hsuma, ← List.drop_drop, List.drop_left' hlargo]
        rw [hantes, hdrop, UInt32.add_assoc, sub_add_eq restante]

/-- The same for `memory_io_escribir`. -/
theorem lectura_memoryIoEscribir (ram : Ram) (dirFisica : UInt32) {tamanio : UInt32} {datos : List UInt8}
    (hdatos : tamanio.toNat ≤ datos.length) :
    lectura (memoryIoEscribir ram dirFisica tamanio datos).2.tabla dirFisica tamanio =
        .ok (datos.take tamanio.toNat) ↔
      lectura ram.tabla (dirFisica + bytesEscritos ram dirFisica tamanio)
          (tamanio - bytesEscritos ram dirFisica tamanio) =
        .ok ((datos.take tamanio.toNat).drop (bytesEscritos ram dirFisica tamanio).toNat) :=
  lectura_escribirTramos _ ram (Nat.le_refl _) hdatos

end PlugAndPlay.Memoria
