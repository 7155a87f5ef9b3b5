import Chip8.Image.Error

/-!
# File formats

The image formats that are told by the extension of a file name. Formats whose files keep every
pixel of a picture as it is can be written and read back. Of the others those are listed that
cannot be written: because they can only be read, because they do not hold pixels of three
channels, or because that is left to another program.
-/

namespace Chip8

/-- What becomes of a picture with three channels that is to be written in a format. -/
inductive Writing where
  /-- It is written, and every pixel is kept as it is. -/
  | exact
  /-- Files of the format can only be read. -/
  | readOnly
  /-- The format holds colours by their number in a palette only. -/
  | paletteOnly
  /-- The format holds no colours. -/
  | colorless
  /-- Another program has to write it, and there is none. -/
  | noWriter
deriving DecidableEq, Repr

/-- A format of image files. -/
structure FileFormat where
  /-- The name of the format. -/
  name : String
  /-- What becomes of a picture that is to be written. -/
  writing : Writing
  /-- The extensions of file names, in lower case. -/
  extensions : List String
deriving DecidableEq, Repr

namespace FileFormat

/-- The formats. -/
def all : List FileFormat := [
  ⟨"PNG", .exact, [".png", ".apng"]⟩, ⟨"BMP", .exact, [".bmp"]⟩, ⟨"DIB", .exact, [".dib"]⟩,
  ⟨"GIF", .exact, [".gif"]⟩, ⟨"IM", .exact, [".im"]⟩, ⟨"PCX", .exact, [".pcx"]⟩,
  ⟨"PPM", .exact, [".ppm", ".pgm", ".pbm", ".pnm", ".pfm"]⟩, ⟨"QOI", .exact, [".qoi"]⟩,
  ⟨"SGI", .exact, [".sgi", ".rgb", ".rgba", ".bw"]⟩, ⟨"DDS", .exact, [".dds"]⟩,
  ⟨"TGA", .exact, [".tga", ".icb", ".vda", ".vst"]⟩, ⟨"TIFF", .exact, [".tif", ".tiff"]⟩,
  ⟨"JPEG2000", .exact, [".jp2", ".j2k", ".jpc", ".jpf", ".jpx", ".j2c"]⟩,
  ⟨"CUR", .readOnly, [".cur"]⟩, ⟨"DCX", .readOnly, [".dcx"]⟩,
  ⟨"FITS", .readOnly, [".fit", ".fits"]⟩, ⟨"FLI", .readOnly, [".fli", ".flc"]⟩,
  ⟨"FTEX", .readOnly, [".ftc", ".ftu"]⟩, ⟨"GBR", .readOnly, [".gbr"]⟩,
  ⟨"IPTC", .readOnly, [".iim"]⟩, ⟨"MPEG", .readOnly, [".mpg", ".mpeg"]⟩,
  ⟨"PCD", .readOnly, [".pcd"]⟩, ⟨"PIXAR", .readOnly, [".pxr"]⟩, ⟨"PSD", .readOnly, [".psd"]⟩,
  ⟨"SUN", .readOnly, [".ras"]⟩, ⟨"XPM", .readOnly, [".xpm"]⟩,
  ⟨"BLP", .paletteOnly, [".blp"]⟩,
  ⟨"MSP", .colorless, [".msp"]⟩, ⟨"Palm", .colorless, [".palm"]⟩, ⟨"XBM", .colorless, [".xbm"]⟩,
  ⟨"BUFR", .noWriter, [".bufr"]⟩, ⟨"GRIB", .noWriter, [".grib"]⟩,
  ⟨"HDF5", .noWriter, [".h5", ".hdf"]⟩, ⟨"WMF", .noWriter, [".wmf", ".emf"]⟩]

/-- The format whose files have an extension, which is given in lower case. -/
def ofExtension (extension : String) : Except ImageError FileFormat :=
  match all.find? fun format => format.extensions.contains extension with
  | some format => .ok format
  | none => .error (.unknownExtension extension)

end FileFormat

end Chip8
