/-
Characters of version 17 of Unicode, which the tables of properties, those of version 16, do not
have. Texts in quotes and names of groups know them; sets in expressions do not.
-/
import AccessControl.Text.CharSet.Packed

namespace AccessControl.Text.Recent

/-- All of them. -/
def printable : CharSet := Packed.set
  ["YaF0+C0ZV0ZlIE2BXkL0YsK0-XN12010S0q+HFjT1XM6YxHPXhB288X11ZZ47o8XB49qbMO2OeU4cW17Xe9L",
   "Z1ZIlu72jTMFGb+FU1L81Z+O0aU3gL8hR3XI030XP040S040eA0XkvV5bx2Bre2ac9"]

def alphabetic : CharSet := Packed.set
  ["YaF0+C0ZV0XctH12010S0ugEPXhB2XI1ZZ47o8XBqc4O2OeU4cW17Xe9LZ1ZIscDU1L81XqXQ5bx2Bre2ac9"]

def numbers : CharSet := Packed.set
  ["Ydl09qmA2"]

/-- Characters that join the one before them. -/
def extending : CharSet := Packed.set
  ["csFE2BXzWE1ZZ401210XoxS0207150"]

end AccessControl.Text.Recent
